import CallAudio.Proofs.StoredDevice

/-! Whether a teardown reports that audio is lost. No audio link does so for LE Audio and hearing aids; the
teardown does exactly if the device is stored as such by the time the headset service has been waited for. -/
namespace CallAudio

/-- A plan that tears audio down does so first, and then chooses another device at most. -/
theorem TransitionPlan.between_tornDown {active destinationActive : Bool} {origin destination : AudioRoute}
    (h : .disconnectBluetooth ∈ (between active origin destination destinationActive).actions) :
    ∃ rest, (between active origin destination destinationActive).actions =
      .disconnectBluetooth :: rest ∧ ∀ action ∈ rest, action.concerns = [.choice] := by
  revert h
  simp only [between, leaving, entering]
  -- The plan follows from whether audio is on, whether it moves, and which routes are Bluetooth.
  by_cases moves : origin = destination <;> cases active <;> cases destinationActive <;>
    cases origin.isBluetooth <;> cases destination.isBluetooth <;> simp [moves]

namespace Phone

variable {p : Phone} {address : Address} (pauses : Pauses)

theorem closed_turn (p : Phone) (turn : Turn) : (p.turn turn).closed = p.closed := by
  cases turn with
  | outside o => exact (p.outside_undisturbed o).closed
  | handle pauses =>
    cases hi : p.inbox with
    | nil => rw [turn_handle_nil hi]
    | cons message rest =>
      rw [turn_handle hi]
      let taken : Phone := { p with inbox := rest }
      have course : Course (fun _ => True) message (taken.record (.handled message))
        (taken.handled message pauses) := handled_course _ _ fun _ _ _ => trivial
      exact course.keeps (P := fun q => q.closed = p.closed)
        (fun _ _ deed closed => (inbox_of_deed deed).2.trans closed)
        (fun q o _ closed => (q.outside_undisturbed o).closed.trans closed) rfl

theorem closed_turns (p : Phone) (turns : List Turn) : (p.turns turns).closed = p.closed := by
  induction turns using List.reverseRecOn with
  | nil => rfl
  | append_singleton turns turn ih =>
    rw [turns_concat]
    exact (closed_turn _ turn).trans ih

/-- A teardown up to its wait for the headset service. -/
def releasing (p : Phone) : Phone :=
  (p.dropRetry.note (.disconnectRequested p.dropRetry.machine.state)).record .audioReleased

/-- The phone as it is when the headset service has been waited for to tear audio down. -/
def awaited (p : Phone) (pauses : Pauses) : Phone :=
  ((Job.awaitHeadset p.releasing).finish pauses).phone

theorem closed_awaited (p : Phone) (pauses : Pauses) : (p.awaited pauses).closed = p.closed := by
  have releasing : p.releasing.closed = p.closed := by
    unfold releasing
    rw [dropRetry_eq]
    rfl
  unfold awaited
  rcases Job.finish_awaitHeadset p.releasing pauses with waited | waited
  · rw [waited]
    exact releasing
  · rw [waited]
    exact (undisturbed_passage.outsides _ _).closed.trans releasing

theorem communication_awaited (p : Phone) {pauses : Pauses} (only : pauses.Only Outside.SparesStored) :
    (p.awaited pauses).registry.communication = p.registry.communication := by
  have releasing : p.releasing.registry = p.registry := by
    unfold releasing
    rw [dropRetry_eq]
    rfl
  unfold awaited
  rcases Job.finish_awaitHeadset p.releasing pauses with waited | waited
  · rw [waited, releasing]
  · rw [waited]
    exact (outsides_communication (only 0)).trans (congrArg Registry.communication releasing)

/-- The loss is posted for a device that is stored over a profile without an audio link. -/
theorem mem_inbox_releaseCommunicationDevice (opened : p.closed = false) :
    .audioLost (some address) ∈ p.releaseCommunicationDevice.inbox ↔
      .audioLost (some address) ∈ p.inbox ∨
        ∃ kind, p.registry.storedKind address = some kind ∧ kind ≠ .bluetoothSco := by
  simp only [Registry.storedKind_eq_some]
  unfold releaseCommunicationDevice
  cases hc : p.registry.communication with
  | none => simp
  | some c =>
    obtain ⟨stored, kind⟩ := c
    dsimp only
    split
    · rename_i linked
      refine (or_iff_left ?_).symm
      rintro ⟨_, ⟨rfl, rfl⟩, other⟩
      exact other linked
    · rename_i other
      have opened' (registry : Registry) :
          ({ p with registry } : Phone).clearCommunicationDevice.closed = false := opened
      rw [post_eq, opened', if_neg Bool.false_ne_true, List.mem_append, List.mem_singleton]
      refine or_congr Iff.rfl ⟨?_, ?_⟩
      · rintro ⟨rfl⟩
        exact ⟨kind, rfl, other⟩
      · rintro ⟨_, ⟨rfl, rfl⟩, _⟩
        rfl

theorem disconnect_finish (p : Phone) :
    let waited := (Job.awaitHeadset p.releasing).finish pauses
    (disconnect p).finish pauses =
      ⟨(), (if waited.value then waited.phone.disconnectSco else waited.phone).releaseCommunicationDevice,
        waited.pauses⟩ := by
  intro waited
  unfold disconnect
  rw [Job.finish_update_bind, Job.finish_update_bind]
  unfold disconnectAudio
  rw [Job.finish_update_bind, Job.finish_bind]
  rfl

theorem mem_inbox_disconnect (opened : p.closed = false) :
    .audioLost (some address) ∈ ((disconnect p).finish pauses).phone.inbox ↔
      .audioLost (some address) ∈ (p.awaited pauses).inbox ∨
        ∃ kind, (p.awaited pauses).registry.storedKind address = some kind ∧ kind ≠ .bluetoothSco := by
  have opened' : (p.awaited pauses).closed = false := (p.closed_awaited pauses).trans opened
  rw [disconnect_finish]
  change _ ∈ (releaseCommunicationDevice (if _ then (p.awaited pauses).disconnectSco
    else p.awaited pauses)).inbox ↔ _
  split
  · exact mem_inbox_releaseCommunicationDevice (p := (p.awaited pauses).disconnectSco) opened'
  · exact mem_inbox_releaseCommunicationDevice opened'

theorem perform_choice_inbox {action : RouteAction} (h : action.concerns = [.choice]) (p : Phone) :
    ((perform action p).finish pauses).phone.inbox = p.inbox := by
  cases action with
  | setCommunicationDevice kind =>
    let performed := p.record (.performed (.setCommunicationDevice kind))
    change (performed.setCommunicationKind kind).view.inbox = _
    rcases performed.setCommunicationKind_view kind with same | failed
    · rw [same]
      rfl
    · rw [failed]
      exact RouteView.tracked_inbox _ _
  | clearCommunicationDevice => rfl
  | connectBluetooth | disconnectBluetooth => simp at h

theorem performAll_choices_inbox {actions : List RouteAction}
    (h : ∀ action ∈ actions, action.concerns = [.choice]) (p : Phone) :
    ((performAll actions p).finish pauses).phone.inbox = p.inbox := by
  induction actions generalizing p pauses with
  | nil => rfl
  | cons action rest ih =>
    obtain ⟨first, others⟩ := List.forall_mem_cons.mp h
    rw [performAll_cons_finish, ih _ others]
    have changed := onStateChanged_untracked ((perform action p).finish pauses).phone
      RouteView.tracked_inbox p.machine.state
    exact changed.trans (perform_choice_inbox pauses first p)

theorem inbox_concluded (p : Phone) (ticket : Ticket) (id : TransitionId) :
    (p.concluded ticket id).inbox = p.inbox := by
  have settled : (p.track TransitionTracker.settle).view.inbox = p.view.inbox := by
    rw [view_track]
    exact RouteView.tracked_inbox _ _
  exact (congrArg RouteView.inbox (clearStaleDeadline_view _)).trans settled

/-- The phone on which a teardown starts. -/
def tearing (p : Phone) (teardown : Message) : Phone :=
  let noted := p.record (.handled teardown)
  match teardown with
  | .beginTransition origin destination destinationActive _ =>
    noted.prepared origin destination destinationActive
  | _ => noted

/-- What comes after the teardown itself posts nothing. -/
theorem TearsDown.inbox {teardown : Message} (h : p.TearsDown teardown) :
    (p.handled teardown pauses).inbox =
      ((disconnect (p.tearing teardown)).finish pauses).phone.inbox := by
  cases teardown with
  | disconnect =>
    rw [handled_eq]
    exact inbox_accounted _ _ _
  | beginTransition origin destination destinationActive ticket =>
    let begun := p.tearing (.beginTransition origin destination destinationActive ticket)
    let torn := (disconnect begun).finish pauses
    let performed := torn.phone.record (.performed .disconnectBluetooth)
    obtain ⟨rest, plan, choices⟩ : ∃ rest, (p.tracker.begin origin destination destinationActive).2.1 =
      .disconnectBluetooth :: rest ∧ ∀ action ∈ rest, action.concerns = [.choice] :=
        TransitionPlan.between_tornDown h
    have first : (perform .disconnectBluetooth begun).finish pauses = ⟨(), performed, torn.pauses⟩ := by
      unfold perform
      exact Job.finish_bind _ _ _ _
    have ends : p.handled (.beginTransition origin destination destinationActive ticket) pauses =
        ((performAll (.disconnectBluetooth :: rest) begun).finish pauses).phone.concluded ticket
          p.tracker.nextId := by
      unfold handled
      rw [handle_begin_eq, plan, Step.finish_bind]
      rfl
    rw [ends, inbox_concluded, performAll_cons_finish, first, performAll_choices_inbox _ choices]
    exact performed.onStateChanged_untracked RouteView.tracked_inbox _
  | _ => cases h

theorem registry_tearing (p : Phone) (teardown : Message) :
    (p.tearing teardown).registry = p.registry := by
  cases teardown with
  | beginTransition origin destination destinationActive ticket =>
    exact registry_of_services (prepared_services _ origin destination destinationActive)
  | _ => rfl

theorem closed_tearing (p : Phone) (teardown : Message) : (p.tearing teardown).closed = p.closed := by
  cases teardown with
  | beginTransition =>
    have armed (q : Phone) (id : TransitionId) : (q.startDeadline id).closed = q.closed := by
      rw [startDeadline_eq]
    exact armed _ _
  | _ => rfl

end Phone

/-- Audio that has arrived at a device, and stays there, is torn down. That leaves the state to the loss, which
is queued then exactly if it was queued by the end of the wait for the headset service, or the device is stored
by then under a kind that has no audio link. It is stored as it was when audio arrived there, unless audio was
released since, the device was lost over a profile or somebody else has changed what is stored; and when audio
had arrived there, the device was stored under the profile that it is operated through, or else that it could
not be was queued. -/
theorem teardown_reported_iff (p : Phone) (arrival : Turn) (stay : List Turn) (teardown : Message)
    (rest : List Message) (pauses : Pauses) (address : Address) :
    let arrived := p.turn arrival
    let q := arrived.turns stay
    let taken : Phone := { q with inbox := rest }
    let waited := (taken.tearing teardown).awaited pauses
    let torn := q.turn (.handle pauses)
    p.closed = false → p.machine.state ≠ .connected address →
      arrived.machine.state = .connected address → arrived.Stays stay →
      q.inbox = teardown :: rest → taken.TearsDown teardown →
        torn.machine.state = .connected address ∧
        (.audioLost (some address) ∈ torn.inbox ↔ .audioLost (some address) ∈ waited.inbox ∨
          ∃ kind, waited.registry.storedKind address = some kind ∧ kind ≠ .bluetoothSco) ∧
        arrived.Claimed address ∧
        ((∀ turn ∈ stay, turn.Only Outside.SparesStored) → pauses.Only Outside.SparesStored →
          arrived.handlesNone (Message.isLossOf address) stay = true → q.releases = arrived.releases →
            waited.registry.storedKind address = arrived.registry.storedKind address) := by
  intro arrived q taken waited torn opened away here stays queued tears
  have ends : torn = taken.handled teardown pauses := Phone.turn_handle queued pauses
  have state : taken.machine.state = .connected address := (stays stay List.prefix_rfl).trans here
  have opened' : (taken.tearing teardown).closed = false := by
    have still : q.closed = p.closed := (arrived.closed_turns stay).trans (p.closed_turn arrival)
    rw [Phone.closed_tearing]
    exact still.trans opened
  refine ⟨?_, ?_, Phone.turn_claimed opened away here, ?_⟩
  · rw [ends]
    exact (congrArg Route.state (tears.route pauses)).trans state
  · rw [ends, tears.inbox pauses]
    exact Phone.mem_inbox_disconnect pauses opened'
  · intro only onlyLast kept unreleased
    have since : q.registry.storedKind address = arrived.registry.storedKind address :=
      Phone.turns_storedKind here stays kept unreleased only
    rw [← since]
    apply Registry.storedKind_of_communication
    rw [Phone.communication_awaited _ onlyLast, Phone.registry_tearing]

/-- An LE Audio headset that the audio service offers is torn down, and the loss is queued. -/
theorem teardown_reported_iff_of_headset :
    let headset : Address := ⟨10, 0, 0, 0, 0, 1⟩
    let pauses : Pauses := fun _ => ⟨true, []⟩
    let past : List Turn := [.outside (.post (.deviceAdded ⟨headset, .audioSink⟩ .leAudio)), .handle pauses,
      .outside (.platform { audio := { available := [⟨2, .bleHeadset, some headset⟩] } }),
      .outside (.post (.audioOn headset))]
    let stay : List Turn := [.outside (.post .disconnect)]
    let p := (Phone.start {} [.classicHeadset, .leAudio]).turns past
    let arrived := p.turn (.handle pauses)
    let q := arrived.turns stay
    let taken : Phone := { q with inbox := [] }
    let waited := (taken.tearing .disconnect).awaited pauses
    let torn := q.turn (.handle pauses)
    p.machine.state = .audioOff ∧ arrived.machine.state = .connected headset ∧
      arrived.registry.profileOf headset = some .leAudio ∧ q.inbox = [.disconnect] ∧
      waited.inbox = [] ∧ waited.registry.storedKind headset = some .bleHeadset ∧
      torn.machine.state = .connected headset ∧ .audioLost (some headset) ∈ torn.inbox := by
  intro headset pauses past stay p arrived q taken waited torn
  have opened : p.closed = false := by decide
  have away : p.machine.state = .audioOff := by decide
  have here : arrived.machine.state = .connected headset := by decide
  have operated : arrived.registry.profileOf headset = some .leAudio := by decide
  have queued : q.inbox = [.disconnect] := by decide
  have silent : waited.inbox = [] := by decide
  have stored : arrived.registry.storedKind headset = some .bleHeadset := by decide
  have kept : arrived.handlesNone (Message.isLossOf headset) stay = true := by decide
  have unreleased : q.releases = arrived.releases := by decide
  have only : ∀ turn ∈ stay, turn.Only Outside.SparesStored := by
    intro turn mem
    rw [List.mem_singleton.mp mem]
    trivial
  have alone : pauses.Only Outside.SparesStored := fun _ => List.forall_mem_nil _
  -- What is known of the phone is enough, so that nothing needs to be computed to apply the theorem.
  clear_value p
  have stays : arrived.Stays stay :=
    (arrived.stays_concat [] _).mpr ⟨arrived.stays_nil,
      congrArg Machine.state (arrived.outside_undisturbed (.post .disconnect)).machine⟩
  have elsewhere : p.machine.state ≠ .connected headset := by
    rw [away]
    nofun
  obtain ⟨state, reported, -, lasts⟩ := teardown_reported_iff p (.handle pauses) stay .disconnect [] pauses
    headset opened elsewhere here stays queued trivial
  have stored' : waited.registry.storedKind headset = some .bleHeadset :=
    (lasts only alone kept unreleased).trans stored
  exact ⟨away, here, operated, queued, silent, stored', state, reported.mpr (Or.inr ⟨_, stored', nofun⟩)⟩

/-- An LE Audio headset is active in a call, so that audio is on it, while the audio service does not offer
it. It is torn down, but nothing is queued that could move the state. -/
theorem refused_headset_teardown_unreported :
    let headset : Address := ⟨10, 0, 0, 0, 0, 1⟩
    let moves : List ThreadMove := [.start,
      .outside (.event (.event (.connectionChanged .leAudio ⟨headset, .audioSink⟩ .connected))), .handle,
      .outside (.event (.setInCall true)),
      .outside (.event (.event (.activeDeviceChanged .leAudio (some headset)))), .handle, .handle, .handle]
    let t := (Thread.fresh {} [.classicHeadset, .leAudio]).run moves
    let torn := t.run [.outside (.post .disconnect), .handle]
    t.isIdle = true ∧ t.inbox = [] ∧ t.phone.machine.state = .connected headset ∧
      t.phone.registry.profileOf headset = some .leAudio ∧
      torn.isIdle = true ∧ audioOperations torn.phone.journal = [.audioReleased] ∧
      torn.phone.machine.state = .connected headset ∧ torn.inbox = [] := by
  decide

end CallAudio

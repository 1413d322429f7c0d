import CallAudio.Proofs.AwaitedSignals
import CallAudio.Proofs.Earned
import CallAudio.Proofs.StaleFailure

/-! Transitions away from a Bluetooth device that has lost its audio already. Whether the origin has audio to
lose is told by the transition resolved last, and not by the state of the machine. -/
namespace CallAudio

/-- The tracker takes the route to carry audio exactly if the transition resolved last was to bring it. -/
structure Traced (v : RouteView) : Prop where
  active : v.tracker.active = (activity v.journal).resolved
  begun : ∀ T, v.tracker.pending = some T → T.destinationActive = (activity v.journal).begun

namespace Traced

variable {v w : RouteView}

theorem entry (h : Traced v) {e : JournalEntry} (ht : w.tracker = v.tracker)
    (hj : w.journal = v.journal ++ [e]) (hb : e.happening.isBegun = false)
    (hr : ∀ r, e.happening ≠ .announced (.routeActive r)) : Traced w := by
  constructor
  · rw [ht, hj, activity_snoc, Activity.after_resolved _ hr]
    exact h.active
  · intro T pending
    rw [hj, activity_snoc, Activity.after_begun _ hb]
    exact h.begun T (ht ▸ pending)

theorem machine (h : Traced v) (hm : MachineStride v w) : Traced w := by
  cases hm with
  | quiet hq =>
    cases hq with
    | post => exact ⟨h.active, h.begun⟩
    | record happening hh =>
      refine h.entry (e := ⟨happening, v.state⟩) rfl rfl (Happening.isBegun_of_isQuiet hh) ?_
      rintro r rfl
      cases hh
  | off | connecting | connected | reaffirmed => exact h.entry rfl rfl rfl nofun

theorem of_ended (ha : w.tracker.active = (activity w.journal).resolved)
    (ended : w.tracker.pending = none) : Traced w := by
  refine ⟨ha, fun T pending => ?_⟩
  cases ended.symm.trans pending

/-- That a transition fell back makes no difference to whether audio is on. -/
theorem fellBack (h : Traced v) {exclude : Option Address} {tracker : TransitionTracker}
    (ha : tracker.active = v.tracker.active) (ended : tracker.pending = none) :
    Traced ({ v with tracker }.recorded (.announced (.switchToBaseline exclude))) := by
  refine of_ended ?_ ended
  change tracker.active = (activity (v.journal ++ [_])).resolved
  rw [ha, activity_snoc]
  exact h.active

/-- What the tracker does shows in the journal, and so it still fits afterwards. -/
theorem tracked (h : Traced v)
    {f : TransitionTracker → Option TransitionOutcome × TransitionTracker} (hf : Licensed v f) :
    Traced (v.tracked f) := by
  obtain ⟨step, simple, effect⟩ := hf.effect
  unfold RouteView.tracked
  generalize (f v.tracker).1 = outcome at effect
  generalize (f v.tracker).2 = tracker at effect
  cases effect with
  | begun => cases simple
  | kept => exact ⟨h.active, h.begun⟩
  | trimmed c T outstanding hp =>
    refine ⟨h.active, fun T' pending => ?_⟩
    obtain rfl := Option.some.inj pending
    exact h.begun T hp
  | resolved step T hb hp =>
    refine of_ended ?_ rfl
    change T.destinationActive = (activity (v.journal ++ [_])).resolved
    rw [activity_snoc]
    exact h.begun T hp
  | failed step T exclude hb hp => exact h.fellBack rfl rfl
  | dropped T hp => exact of_ended h.active rfl

theorem stride (h : Traced v) (hs : Stride v w) : Traced w := by
  cases hs with
  | machine hm => exact h.machine hm
  | taken message rest => exact h.entry rfl rfl rfl nofun
  | begun origin destination destinationActive ticket earlier hj =>
    -- What is begun is the transition that the message handled last asks for.
    have asked : (activity v.journal).asked = destinationActive := by
      rw [hj, activity_snoc]
      rfl
    have journal : (v.begun origin destination destinationActive).journal = v.journal ++
        [⟨.begun v.tracker.nextId (v.tracker.begin origin destination destinationActive).2.1, v.state⟩] :=
      rfl
    constructor
    · rw [journal, activity_snoc]
      exact h.active
    · intro T pending
      obtain rfl := Option.some.inj pending
      rw [journal, activity_snoc]
      exact asked.symm
  | tracked f hf => exact h.tracked hf
  | abandoned exclude => exact h.fellBack rfl rfl

theorem loop (h : Traced v) (hs : LoopStride v w) : Traced w := by
  cases hs with
  | stride hs => exact h.stride hs
  | cleared => exact ⟨h.active, h.begun⟩

end Traced

theorem Thread.traced_run (config : RouteConfig) (attached : List Profile) (moves : List ThreadMove) :
    Traced ((fresh config attached).run moves).phone.view :=
  (via_run config attached moves).keeps (fun _ _ stride traced => traced.loop stride) (.of_ended rfl rfl)

namespace TransitionPlan

variable {origin destination : AudioRoute} {address : Address}

/-- A plan from a Bluetooth device to another route waits for the loss of audio exactly if the origin is
taken to carry audio. -/
theorem loss_mem_tokens_iff (active : Bool) (bluetooth : origin.isBluetooth = true)
    (ha : origin.address = some address) (other : destination.isBluetooth = false) :
    ⟨.bluetoothAudioDisconnected, some address⟩ ∈ (between active origin destination true).tokens ↔
      active = true := by
  have moves : origin ≠ destination := by
    rintro rfl
    exact Bool.false_ne_true (other.symm.trans bluetooth)
  have entered : ⟨.bluetoothAudioDisconnected, some address⟩ ∉ (entering destination).tokens := by
    unfold entering
    rw [if_neg (by simp [other])]
    dsimp only
    split <;> simp
  have left : ⟨.bluetoothAudioDisconnected, some address⟩ ∈ (leaving origin destination true).tokens := by
    unfold leaving
    simp [bluetooth, other, ha]
  cases active <;> simp [between, moves, entered, left]

theorem between_quiet (active destinationActive : Bool) (origin : AudioRoute)
    (other : destination.isBluetooth = false) (address : Option Address) :
    .connectBluetooth address ∉ (between active origin destination destinationActive).actions := by
  intro connects
  have only := between_actions connects
  unfold between at connects
  rcases List.mem_append.mp connects with leaves | enters
  · split at leaves
    · exact leaving_actions leaves
    · cases leaves
  · split at enters
    · exact Bool.false_ne_true (other.symm.trans (entering_actions enters).1)
    · cases enters

end TransitionPlan

/-- Audio is lost by the device that it was on. -/
theorem RouteState.eq_of_loss_mem {before after : RouteState} {address : Address}
    (mem : ⟨.bluetoothAudioDisconnected, some address⟩ ∈ before.signalsTo after) :
    before = .connected address := by
  unfold signalsTo at mem
  split at mem
  · cases mem
  · rcases List.mem_append.mp mem with left | entered
    · obtain ⟨carrier, was, he⟩ := List.mem_map.mp left
      obtain rfl : carrier = address := Option.some.inj (ConfirmationToken.mk.inj he).2
      cases before with
      | connected live => rw [List.mem_singleton.mp was]
      | audioOff | connecting => cases was
    · obtain ⟨carrier, -, he⟩ := List.mem_map.mp entered
      cases he

namespace Phone

variable {p : Phone} {c : Confirmation} {id : TransitionId} {address : Address}

/-- What holds already is never the loss of audio. -/
theorem loss_not_reaffirmed (cue : Cue) :
    ⟨.bluetoothAudioDisconnected, some address⟩ ∉ p.reaffirmed cue := by
  intro mem
  unfold reaffirmed at mem
  split at mem
  · split at mem
    · rcases List.mem_cons.mp mem with he | stored
      · cases he
      · split at stored <;> simp at stored
    · cases mem
  · cases mem

/-- The loss of audio on a device is told by somebody else, or by the machine as it leaves the state in
which audio is on that device. -/
theorem loss_given {pauses : Pauses} {message : Message} (mem : c ∈ p.given pauses message)
    (gives : c.Gives id ⟨.bluetoothAudioDisconnected, some address⟩) :
    message = .confirmation c ∨ p.machine.state = .connected address := by
  have token : c.token = ⟨.bluetoothAudioDisconnected, some address⟩ :=
    ConfirmationToken.eq_of_isSatisfiedBy gives.2
  rcases List.mem_append.mp mem with received | told
  · cases message with
    | confirmation c' =>
      rw [List.mem_singleton.mp received]
      exact Or.inl rfl
    | _ => cases received
  · right
    obtain ⟨token', signal, rfl⟩ := List.mem_map.mp told
    obtain rfl : token' = ⟨.bluetoothAudioDisconnected, some address⟩ := token
    rcases List.mem_append.mp signal with reaffirmed | moved
    · exact absurd reaffirmed (loss_not_reaffirmed _)
    · exact RouteState.eq_of_loss_mem moved

theorem loss_givenAlong {turns : List Turn} (mem : c ∈ p.givenAlong turns)
    (gives : c.Gives id ⟨.bluetoothAudioDisconnected, some address⟩) :
    ∃ past, past <+: turns ∧ ((p.turns past).inbox.head? = some (.confirmation c) ∨
      (p.turns past).machine.state = .connected address) := by
  induction turns generalizing p with
  | nil => cases mem
  | cons turn rest ih =>
    rcases List.mem_append.mp mem with now | later
    · refine ⟨[], List.nil_prefix, ?_⟩
      change p.inbox.head? = _ ∨ p.machine.state = _
      cases turn with
      | outside o => cases now
      | handle pauses =>
        cases hi : p.inbox with
        | nil =>
          rw [givenBy_handle_nil hi] at now
          cases now
        | cons message older =>
          rw [givenBy_handle hi] at now
          refine (loss_given now gives).imp_left ?_
          rintro rfl
          rfl
    · obtain ⟨past, way, told⟩ := ih later
      exact ⟨turn :: past, List.cons_prefix_cons.mpr ⟨rfl, way⟩, told⟩

end Phone

/-- A transition from a Bluetooth device to another route, begun when audio is off, waits for the loss of
audio on that device exactly if the transition resolved last was to bring audio to its destination, until
the loss is given. As audio is off, that takes a confirmation from outside, or audio on the device anew. -/
theorem lost_origin_awaited_iff (config : RouteConfig) (attached : List Profile)
    (moves : List ThreadMove) (origin destination : AudioRoute) (ticket : Ticket) (rest : List Message)
    (pauses : Pauses) (later : List Turn) (address : Address) (T : PendingTransition) :
    let t := (Thread.fresh config attached).run moves
    let message : Message := .beginTransition origin destination true ticket
    let begun := t.phone.turn (.handle pauses)
    let q := begun.turns later
    let loss : ConfirmationToken := ⟨.bluetoothAudioDisconnected, some address⟩
    t.isIdle = true → t.inbox = message :: rest → t.phone.machine.state = .audioOff →
      origin.isBluetooth = true → origin.address = some address → destination.isBluetooth = false →
      begun.handlesNone Message.isBegin later = true → q.tracker.pending = some T →
      begun.machine.state = .audioOff ∧
        (loss ∈ T.outstanding ↔ (activity t.phone.journal).resolved = true ∧
          ∀ c ∈ begun.givenAlong later, ¬c.Gives T.id loss) ∧
        (∀ c ∈ begun.givenAlong later, c.Gives T.id loss → ∃ past, past <+: later ∧
          ((begun.turns past).inbox.head? = some (.confirmation c) ∨
            (begun.turns past).machine.state = .connected address)) := by
  intro t message begun q loss idle queued off bluetooth ha other simple pending
  let p : Phone := { t.phone with inbox := rest }
  have quiet : .connectBluetooth destination.address ∉
      (p.tracker.begin origin destination true).2.1 := TransitionPlan.between_quiet _ _ origin other _
  have remains := Phone.begun_remains queued simple pending
  -- The begin itself gives nothing, as it connects to nothing.
  have given : t.phone.givenAlong (.handle pauses :: later) = begun.givenAlong later := by
    have first : t.phone.givenBy (.handle pauses) = [] :=
      (Phone.givenBy_handle queued pauses).trans (Phone.given_begin_quiet quiet pauses)
    change t.phone.givenBy (.handle pauses) ++ begun.givenAlong later = _
    rw [first]
    rfl
  rw [given] at remains
  have active : t.phone.tracker.active = (activity t.phone.journal).resolved :=
    (Thread.traced_run config attached moves).active
  refine ⟨?_, ?_, fun c mem gives => Phone.loss_givenAlong mem gives⟩
  · have handled : begun = p.handled message pauses := Phone.turn_handle queued pauses
    have cue : p.cue pauses message = .nothing := if_neg quiet
    have state := (p.handled_obeys pauses message).state
    rw [cue] at state
    rw [handled]
    exact state.trans off
  · rw [remains.id_eq, remains.awaited loss, ← active]
    exact and_congr_left fun _ => TransitionPlan.loss_mem_tokens_iff _ bluetooth ha other

/-- The headset of the transition resolved last has lost its audio, and a transition to the earpiece is
begun. -/
theorem lost_origin_awaited_iff_on_headset :
    let headset : Address := ⟨10, 0, 0, 0, 0, 1⟩
    let route : AudioRoute := ⟨.bluetoothSco, some headset⟩
    let device : CommunicationDevice := ⟨2, .bluetoothSco, some headset⟩
    let moves : List ThreadMove := [.start,
      .outside (.event (.event (.connectionChanged .classicHeadset ⟨headset, .audioSink⟩ .connected))),
      .handle, .outside (.platform { audio := { available := [device, ⟨3, .speaker, none⟩] } }),
      .outside (.post (.beginTransition ⟨.earpiece, none⟩ route true 0)), .handle,
      .outside (.event (.event (.scoChanged headset .connected))), .handle,
      .outside (.event (.communicationDeviceChanged (some device))), .handle,
      .outside (.event (.event (.scoChanged headset .disconnected))), .handle,
      .outside (.post (.beginTransition route ⟨.speaker, none⟩ true 1))]
    let pauses : Pauses := fun _ => ⟨true, []⟩
    let t := (Thread.fresh {} [.classicHeadset]).run moves
    let message : Message := .beginTransition route ⟨.speaker, none⟩ true 1
    let begun := t.phone.turn (.handle pauses)
    let loss : ConfirmationToken := ⟨.bluetoothAudioDisconnected, some headset⟩
    let T : PendingTransition :=
      ⟨⟨1⟩, route, ⟨.speaker, none⟩, true, [loss, ⟨.speakerOn, none⟩], some .speaker⟩
    t.isIdle = true ∧ t.inbox = [message] ∧ t.phone.machine.state = .audioOff ∧
      begun.tracker.pending = some T ∧ begun.machine.state = .audioOff ∧
      (loss ∈ T.outstanding ↔ (activity t.phone.journal).resolved = true ∧
        ∀ c ∈ begun.givenAlong [], ¬c.Gives T.id loss) := by
  intro headset route device moves pauses t message begun loss T
  have idle : t.isIdle = true := by decide
  have queued : t.inbox = [message] := by decide
  have off : t.phone.machine.state = .audioOff := by decide
  have pending : begun.tracker.pending = some T := by decide
  have main := lost_origin_awaited_iff {} [.classicHeadset] moves route ⟨.speaker, none⟩ 1 [] pauses []
    headset T
  -- What is known of the thread is enough, so that nothing needs to be computed to apply the theorem.
  have run : (Thread.fresh {} [.classicHeadset]).run moves = t := rfl
  rw [run] at main
  clear_value t
  obtain ⟨state, awaited, -⟩ := main idle queued off rfl rfl rfl rfl pending
  exact ⟨idle, queued, off, pending, state, awaited⟩

/-- A headset brought up by a transition loses its audio. A transition from it to the earpiece, which needs
nothing else, still waits for that loss. -/
theorem lost_headset_awaited :
    let headset : Address := ⟨10, 0, 0, 0, 0, 1⟩
    let route : AudioRoute := ⟨.bluetoothSco, some headset⟩
    let device : CommunicationDevice := ⟨2, .bluetoothSco, some headset⟩
    let past : List ThreadMove := [.start,
      .outside (.event (.event (.connectionChanged .classicHeadset ⟨headset, .audioSink⟩ .connected))),
      .handle, .outside (.platform { audio := { available := [device, ⟨3, .earpiece, none⟩] } }),
      .outside (.post (.beginTransition ⟨.earpiece, none⟩ route true 0)), .handle,
      .outside (.event (.event (.scoChanged headset .connected))), .handle,
      .outside (.event (.communicationDeviceChanged (some device))), .handle,
      .outside (.event (.event (.scoChanged headset .disconnected))), .handle]
    let t := (Thread.fresh {} [.classicHeadset]).run past
    let after := t.run [.outside (.post (.beginTransition route ⟨.earpiece, none⟩ true 1)), .handle]
    t.isIdle = true ∧ t.inbox = [] ∧ t.phone.machine.state = .audioOff ∧
      after.isIdle = true ∧ after.inbox = [] ∧ after.phone.machine.state = .audioOff ∧
      after.phone.tracker.pending = some ⟨⟨1⟩, route, ⟨.earpiece, none⟩, true,
        [⟨.bluetoothAudioDisconnected, some headset⟩], some .earpiece⟩ := by
  decide

end CallAudio

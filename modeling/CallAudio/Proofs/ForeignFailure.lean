import CallAudio.Proofs.AwaitedSignals

/-! Transitions to routes beside Bluetooth. They wait for nothing that a Bluetooth device brings, so nothing
that such a device does or fails to do ends them at once. But its failure is posted, and a failure ends
whatever transition is pending when it is handled. -/
namespace CallAudio

/-- A plan for a route beside Bluetooth waits neither for audio on a device nor for the communication
device. -/
theorem TransitionPlan.signal_of_nonBluetooth {active destinationActive : Bool}
    {origin destination : AudioRoute} (h : destination.isBluetooth = false) {token : ConfirmationToken}
    (mem : token ∈ (between active origin destination destinationActive).tokens) :
    token.signal ≠ .bluetoothAudioConnected ∧ token.signal ≠ .communicationDeviceChanged := by
  have left {token : ConfirmationToken} (mem : token ∈ (leaving origin destination destinationActive).tokens) :
      token.signal = .speakerOff ∨ token.signal = .bluetoothAudioDisconnected := by
    unfold leaving at mem
    rcases List.mem_append.mp mem with speaker | dropped
    · split at speaker <;> simp at speaker
      exact Or.inl (congrArg ConfirmationToken.signal speaker)
    · split at dropped <;> simp at dropped
      exact Or.inr (congrArg ConfirmationToken.signal dropped)
  have entered {token : ConfirmationToken} (mem : token ∈ (entering destination).tokens) :
      token.signal = .speakerOn := by
    unfold entering at mem
    rw [if_neg (by simp [h])] at mem
    dsimp only at mem
    split at mem <;> simp at mem
    exact congrArg ConfirmationToken.signal mem
  have signal : token.signal = .speakerOff ∨ token.signal = .bluetoothAudioDisconnected ∨
      token.signal = .speakerOn := by
    unfold between at mem
    rcases List.mem_append.mp mem with leaves | enters
    · split at leaves
      · exact (left leaves).imp_right Or.inl
      · cases leaves
    · split at enters
      · exact Or.inr (Or.inr (entered enters))
      · cases enters
  rcases signal with h | h | h <;> (rw [h]; exact ⟨nofun, nofun⟩)

/-- All that a transition waits for stems from a plan for its routes. -/
def PendingTransition.Planned (T : PendingTransition) : Prop :=
  ∃ active, T.outstanding.Subperm
    (TransitionPlan.between active T.origin T.destination T.destinationActive).tokens

namespace PendingTransition

variable {T T' : PendingTransition} {cs : List Confirmation}

theorem planned_planned (t : TransitionTracker) (origin destination : AudioRoute)
    (destinationActive : Bool) : (t.planned origin destination destinationActive).Planned :=
  ⟨t.active, List.Subperm.refl _⟩

theorem Planned.distinct (h : T.Planned) : T.Distinct := by
  obtain ⟨active, found, perm, sub⟩ := h
  have plan := TransitionPlan.between_distinct active T.origin T.destination T.destinationActive
  have kept : (found.map ConfirmationToken.signal).Nodup := (sub.map _).nodup plan
  exact (perm.map _).nodup_iff.mp kept

theorem Planned.remains (h : T.Planned) (hr : T.Remains cs T') : T'.Planned := by
  obtain ⟨active, fewer⟩ := h
  refine ⟨active, ?_⟩
  have less : T'.outstanding.Subperm
      (TransitionPlan.between active T.origin T.destination T.destinationActive).tokens :=
    hr.fewer.trans fewer
  rw [hr.same]
  exact less

/-- A transition to a route beside Bluetooth does not wait for audio on any device. -/
theorem Planned.unawaited (h : T.Planned) (other : T.destination.isBluetooth = false)
    {t : TransitionTracker} (hp : t.pending = some T) (address : Address) :
    t.isAwaiting ⟨.bluetoothAudioConnected, some address⟩ = false := by
  obtain ⟨active, fewer⟩ := h
  unfold TransitionTracker.isAwaiting
  rw [hp, Option.any_some, List.any_eq_false]
  intro token mem satisfied
  have signal : token.signal = .bluetoothAudioConnected := by
    unfold ConfirmationToken.isSatisfiedBy at satisfied
    exact of_decide_eq_true (Bool.and_eq_true_iff.mp satisfied).1
  exact (TransitionPlan.signal_of_nonBluetooth other (fewer.subset mem)).1 signal

end PendingTransition

namespace Phone

/-- Whatever transition is pending stems from a plan. -/
def Planned (p : Phone) : Prop := ∀ T, p.tracker.pending = some T → T.Planned

theorem Planned.turn {p : Phone} (h : p.Planned) (turn : Turn) : (p.turn turn).Planned := by
  intro T pending
  cases hb : p.handles Message.isBegin turn with
  | false =>
    obtain ⟨T', hp, remains⟩ := turn_remains hb pending
    have planned : T'.Planned := h T' hp
    exact planned.remains (remains planned.distinct)
  | true =>
    -- A begin puts a plan in the place of whatever was pending.
    obtain ⟨pauses, message, rest, rfl, queued, begins⟩ := exists_of_handles hb
    rw [turn_handle queued] at pending
    cases message with
    | beginTransition origin destination destinationActive ticket =>
      exact (PendingTransition.planned_planned _ _ _ _).remains (handled_begin_remains pending)
    | _ => cases begins

end Phone

theorem Thread.planned_run (config : RouteConfig) (attached : List Profile) (moves : List ThreadMove)
    (idle : ((fresh config attached).run moves).isIdle = true) :
    ((fresh config attached).run moves).phone.Planned := by
  refine (reaches_fresh_run config attached moves idle).keeps (P := Phone.Planned) ?_ ?_
  · intro T hp
    cases hp
  · intro q turn _ planned
    exact planned.turn turn

/-- What a message makes a transition fall back from, whatever signals it gives: the failure of any device,
the deadline of the transition, or a switch to the baseline. -/
def Message.fallBackFor (T : PendingTransition) : Message → Option (Option Address)
  | .transitionFailed failed => some (failed.or T.destination.address)
  | .transitionTimeout id => if T.id = id then some T.destination.address else none
  | .switchToBaseline exclude => some exclude
  | _ => none

namespace Progress

/-- The pending transition is over, and the baseline is announced. -/
structure FallsBack (exclude : Option Address) (v w : Progress) : Prop where
  ended : w.tracker.pending = none
  told : w.events = v.events ++ [.switchToBaseline exclude]

variable {v w : Progress} {T : PendingTransition} {cs : List Confirmation} {exclude : Option Address}

theorem FallsBack.exclude_eq (h : FallsBack exclude v w) {exclude' : Option Address}
    (h' : FallsBack exclude' v w) : exclude = exclude' := by
  have events := h.told.symm.trans h'.told
  exact TransitionEvent.switchToBaseline.inj (List.singleton_inj.mp (List.append_cancel_left events))

theorem Resolves.not_fallsBack (h : Resolves T v w) : ¬FallsBack exclude v w := by
  intro h'
  have events := List.append_cancel_left (h.told.symm.trans h'.told)
  cases List.singleton_inj.mp events

theorem GoesOn.not_fallsBack (h : GoesOn T cs v w) : ¬FallsBack exclude v w := by
  intro h'
  obtain ⟨T', hp, -⟩ := h.remains
  cases h'.ended.symm.trans hp

/-- A message has the tracker fall back, or leaves it to the signals to end the transition. -/
theorem ordered_cases (hp : v.tracker.pending = some T) {message : Message}
    (simple : message.isBegin = false) :
    match message.fallBackFor T with
    | some exclude => FallsBack exclude v (v.ordered message)
    | none => v.ordered message = v := by
  have failed (failed : Option Address) :
      FallsBack (failed.or T.destination.address) v (v.tracked (·.fail failed)) := by
    refine ⟨TransitionTracker.fail_pending _ _, ?_⟩
    have outcome : (v.tracker.fail failed).1 =
        some (.fallBackToBaseline (failed.or T.destination.address)) := by
      unfold TransitionTracker.fail
      rw [hp]
    unfold tracked
    dsimp only
    rw [outcome]
    rfl
  cases message with
  | beginTransition => cases simple
  | transitionFailed address => exact failed address
  | switchToBaseline exclude => exact ⟨rfl, rfl⟩
  | transitionTimeout id =>
    by_cases own : T.id = id
    · have timedOut : v.tracker.timeOut id = v.tracker.fail none := by
        unfold TransitionTracker.timeOut
        rw [hp]
        exact if_pos own
      have ends : v.tracked (·.timeOut id) = v.tracked (·.fail none) := tracked_congr timedOut
      have falls : Message.fallBackFor T (.transitionTimeout id) = some T.destination.address :=
        if_pos own
      rw [falls]
      change FallsBack _ v (v.tracked (·.timeOut id))
      rw [ends]
      exact failed none
    · have other : v.tracker.pending.map PendingTransition.id ≠ some id := by
        rw [hp]
        exact fun he => own (Option.some.inj he)
      have falls : Message.fallBackFor T (.transitionTimeout id) = none := if_neg own
      have unchanged : v.tracked (·.timeOut id) = v :=
        tracked_of_unchanged (TransitionTracker.timeOut_of_other _ _ other)
      rw [falls]
      exact unchanged
  | _ => rfl

end Progress

/-- A message ends a transition to a route beside Bluetooth with the baseline exactly if it is such as to do
so by itself, and the failure of a Bluetooth device is. All else that happens to Bluetooth devices leaves the
transition waiting, or resolves it. -/
theorem nonBluetooth_transition_falls_back_iff (config : RouteConfig) (attached : List Profile)
    (moves : List ThreadMove) (message : Message) (rest : List Message) (pauses : Pauses)
    (T : PendingTransition) :
    let t := (Thread.fresh config attached).run moves
    let p : Phone := { t.phone with inbox := rest }
    let before := p.progress
    let after := (p.handled message pauses).progress
    t.isIdle = true → t.inbox = message :: rest → message.isBegin = false →
      p.tracker.pending = some T → T.destination.isBluetooth = false →
      (∀ exclude, Progress.FallsBack exclude before after ↔ message.fallBackFor T = some exclude) ∧
        (message.fallBackFor T = none →
          Progress.Resolves T before after ∨ Progress.GoesOn T (p.given pauses message) before after) := by
  intro t p before after idle _ simple pending other
  have planned : T.Planned := Thread.planned_run config attached moves idle T pending
  have progress : after = ((before.ordered message).heard (p.given pauses message)).gaveUp _ :=
    p.progress_handled pauses (Message.ne_of_isBegin simple)
  have ordered := Progress.ordered_cases (v := before) pending simple
  cases falls : message.fallBackFor T with
  | some exclude =>
    rw [falls] at ordered
    -- Nothing is left pending that could hear of what else the message brings.
    have ended : after = before.ordered message := by
      rw [progress, Progress.heard_of_none ordered.ended, Progress.gaveUp_of_none ordered.ended]
    rw [ended]
    refine ⟨fun exclude' => ⟨fun h => ?_, ?_⟩, nofun⟩
    · exact congrArg some (ordered.exclude_eq h)
    · rintro ⟨⟩
      exact ordered
  | none =>
    rw [falls] at ordered
    rw [ordered] at progress
    have fate : Progress.Resolves T before after ∨
        Progress.GoesOn T (p.given pauses message) before after := by
      rcases Progress.heard_cases (v := before) pending planned.distinct (p.given pauses message) with
        resolves | goesOn
      · rw [Progress.gaveUp_of_none resolves.ended] at progress
        rw [progress]
        exact Or.inl resolves
      · -- Audio on a device is nothing that the transition waits for, so no attempt counts as its own.
        obtain ⟨T', hp, remains⟩ := goesOn.remains
        have other' : T'.destination.isBluetooth = false := by rwa [remains.destination_eq]
        rw [Progress.gaveUp_of_unawaited ((planned.remains remains).unawaited other' hp)] at progress
        rw [progress]
        exact Or.inr goesOn
    refine ⟨fun exclude => iff_of_false ?_ nofun, fun _ => fate⟩
    rcases fate with resolves | goesOn
    · exact resolves.not_fallsBack
    · exact goesOn.not_fallsBack

/-- A connect that finds no device, while a transition to the speaker is pending. Its failure is posted, but
the transition is not over before that is handled. -/
theorem nonBluetooth_transition_falls_back_iff_on_connect :
    let speaker : AudioRoute := ⟨.speaker, none⟩
    let moves : List ThreadMove := [.start,
      .outside (.platform { audio := { available := [⟨1, .speaker, none⟩] } }),
      .outside (.post (.beginTransition ⟨.earpiece, none⟩ speaker true 0)), .handle,
      .outside (.post (.connect none))]
    let pauses : Pauses := fun _ => ⟨true, []⟩
    let t := (Thread.fresh {} [.classicHeadset]).run moves
    let p : Phone := { t.phone with inbox := [] }
    let after := p.handled (.connect none) pauses
    let T : PendingTransition :=
      ⟨⟨0⟩, ⟨.earpiece, none⟩, speaker, true, [⟨.speakerOn, none⟩], some .speaker⟩
    t.isIdle = true ∧ t.inbox = [.connect none] ∧ p.tracker.pending = some T ∧
      after.inbox = [.transitionFailed none] ∧
      (∀ exclude, ¬Progress.FallsBack exclude p.progress after.progress) ∧
      (Progress.Resolves T p.progress after.progress ∨
        Progress.GoesOn T (p.given pauses (.connect none)) p.progress after.progress) := by
  intro speaker moves pauses t p after T
  have idle : t.isIdle = true := by decide
  have queued : t.inbox = [.connect none] := by decide
  have pending : p.tracker.pending = some T := by decide
  have posted : after.inbox = [.transitionFailed none] := by decide
  have main := nonBluetooth_transition_falls_back_iff {} [.classicHeadset] moves (.connect none) [] pauses T
  have run : (Thread.fresh {} [.classicHeadset]).run moves = t := rfl
  rw [run] at main
  obtain ⟨falls, fate⟩ := main idle queued rfl pending rfl
  have spared : ∀ exclude, ¬Progress.FallsBack exclude p.progress after.progress := by
    intro exclude h
    cases (falls exclude).mp h
  exact ⟨idle, queued, pending, posted, spared, fate rfl⟩

/-- A headset takes audio up by itself, and is not offered as the communication device. The failure of this,
which no transition has anything to do with, ends the pending transition to the speaker. -/
theorem headset_failure_ends_speaker_transition :
    let headset : Address := ⟨10, 0, 0, 0, 0, 1⟩
    let speaker : AudioRoute := ⟨.speaker, none⟩
    let moves : List ThreadMove := [.start,
      .outside (.event (.event (.connectionChanged .classicHeadset ⟨headset, .audioSink⟩ .connected))),
      .handle, .outside (.platform { audio := { available := [⟨1, .speaker, none⟩] } }),
      .outside (.post (.beginTransition ⟨.earpiece, none⟩ speaker true 0)), .handle,
      .outside (.event (.event (.scoChanged headset .connected))), .handle]
    let t := (Thread.fresh {} [.classicHeadset]).run moves
    let after := t.move .handle
    t.isIdle = true ∧ t.inbox = [.transitionFailed (some headset)] ∧
      t.phone.machine.state = .connected headset ∧
      t.phone.tracker.pending = some ⟨⟨0⟩, ⟨.earpiece, none⟩, speaker, true,
        [⟨.speakerOn, none⟩], some .speaker⟩ ∧
      after.phone.tracker.pending = none ∧
      Bench.transitionEvents after.phone.journal = [.switchToBaseline (some headset)] := by
  decide

end CallAudio

import CallAudio.Proofs.ConnectionTimer
import CallAudio.Proofs.ForeignFailure
import CallAudio.Proofs.Sent

/-! Losses of audio that were queued before the machine entered a connecting state, as when the teardown of
an earlier session reports them. A loss carries nothing but an address, so it counts for the connection that
is being made to the same device. -/
namespace CallAudio

/-- Only one token of a signal is waited for. -/
theorem PendingTransition.Distinct.unsatisfied {T : PendingTransition} (h : T.Distinct)
    {token observed : ConfirmationToken} (mem : token ∈ T.outstanding)
    (signal : token.signal = observed.signal) (other : token.isSatisfiedBy observed = false) :
    ∀ u ∈ T.outstanding, u.isSatisfiedBy observed = false := by
  intro u hu
  refine Bool.eq_false_iff.mpr fun satisfied => ?_
  have same : u.signal = token.signal := (ConfirmationToken.signal_eq satisfied).trans signal.symm
  obtain rfl : u = token := List.inj_on_of_nodup_map h hu mem same
  exact Bool.false_ne_true (other.symm.trans satisfied)

theorem TransitionTracker.confirm_of_unsatisfied {t : TransitionTracker} {T : PendingTransition}
    (h : t.pending = some T) {c : Confirmation}
    (none : ∀ token ∈ T.outstanding, token.isSatisfiedBy c.token = false) :
    t.confirm c = (Option.none, t) := by
  have nowhere : T.outstanding.findIdx? (·.isSatisfiedBy c.token) = Option.none :=
    List.findIdx?_eq_none_iff.mpr none
  unfold confirm
  rw [h]
  dsimp only
  rw [nowhere]
  split <;> rfl

namespace Progress

variable {v : Progress} {T : PendingTransition} {token : ConfirmationToken} {address : Address}

theorem gaveUp_fallsBack (hp : v.tracker.pending = some T) (mem : token ∈ T.outstanding)
    (awaited : token.isSatisfiedBy ⟨.bluetoothAudioConnected, some address⟩ = true) :
    FallsBack (some address) v (v.gaveUp (some address)) := by
  have awaiting : v.tracker.isAwaiting ⟨.bluetoothAudioConnected, some address⟩ = true := by
    unfold TransitionTracker.isAwaiting
    rw [hp]
    exact List.any_eq_true.mpr ⟨token, mem, awaited⟩
  have simple : (Message.transitionFailed (some address)).isBegin = false := rfl
  have failed := ordered_cases hp simple
  change FallsBack _ v (if v.tracker.isAwaiting ⟨.bluetoothAudioConnected, some address⟩ then _ else v)
  rw [if_pos awaiting]
  exact failed

/-- When the attempt to connect a device ends with audio elsewhere or nowhere, a transition that waits for
audio on the device falls back, unless it takes audio on the other device as well. -/
theorem attempt_fallsBack_iff (hp : v.tracker.pending = some T) (distinct : T.Distinct)
    (mem : token ∈ T.outstanding)
    (awaited : token.isSatisfiedBy ⟨.bluetoothAudioConnected, some address⟩ = true)
    (carrier : Option Address) :
    let found := carrier.toList.map fun a => (⟨none, .bluetoothAudioConnected, some a⟩ : Confirmation)
    let attempt := if carrier = some address then none else some address
    FallsBack (some address) v ((v.heard found).gaveUp attempt) ↔
      carrier.any (fun a => token.isSatisfiedBy ⟨.bluetoothAudioConnected, some a⟩) = false := by
  have signal : token.signal = .bluetoothAudioConnected := ConfirmationToken.signal_eq awaited
  cases carrier with
  | none => exact iff_of_true (gaveUp_fallsBack hp mem awaited) rfl
  | some a =>
    intro found attempt
    rw [Option.any_some]
    by_cases satisfied : token.isSatisfiedBy ⟨.bluetoothAudioConnected, some a⟩ = true
    · refine iff_of_false ?_ (ne_true_of_eq_false · satisfied)
      rcases heard_cases hp distinct found with resolves | goesOn
      · rw [gaveUp_of_none resolves.ended]
        exact resolves.not_fallsBack
      · -- The token was given, so audio on a device is not waited for any more.
        have unawaited : (v.heard found).gaveUp attempt = v.heard found := by
          obtain ⟨T', hp', remains⟩ := goesOn.remains
          apply gaveUp_of_unawaited
          intro b
          unfold TransitionTracker.isAwaiting
          rw [hp', Option.any_some, List.any_eq_false]
          intro u hu su
          obtain ⟨hu', ungiven⟩ := (remains.awaited u).mp hu
          have same : u.signal = token.signal := (ConfirmationToken.signal_eq su).trans signal.symm
          obtain rfl : u = token := List.inj_on_of_nodup_map distinct hu' mem same
          exact ungiven _ List.mem_cons_self ⟨nofun, satisfied⟩
        rw [unawaited]
        exact goesOn.not_fallsBack
    · rw [Bool.not_eq_true] at satisfied
      have other : ¬some a = some address := by
        intro he
        rw [he, awaited] at satisfied
        cases satisfied
      have unsatisfied := distinct.unsatisfied mem signal satisfied
      have unheard : v.heard found = v :=
        (v.heard_singleton _).trans (tracked_of_unchanged
          (TransitionTracker.confirm_of_unsatisfied hp unsatisfied))
      refine iff_of_true ?_ satisfied
      rw [unheard]
      change FallsBack (some address) v (v.gaveUp (if some a = some address then none else some address))
      rw [if_neg other]
      exact gaveUp_fallsBack hp mem awaited

end Progress

namespace Phone

variable {p : Phone} {address : Address} (pauses : Pauses)

/-- Without a headset in use, audio is where the platform says. -/
theorem carryingAudio_of_unused (h : p.registry.active.classicHeadset = none) :
    ((carryingAudio p).finish pauses).value = p.communicationCarrier := by
  unfold carryingAudio
  rw [Job.finish_read_bind, h]
  rfl

/-- What the loss of the device that is being connected comes to: audio falls back, and the transition hears
where to. -/
theorem handled_lost_attempt (h : p.machine.state = .connecting address) :
    let carrier := ((carryingAudio p).finish pauses).value
    let q := p.handled (.audioLost (some address)) pauses
    q.machine.state = RouteState.after (.connecting address) (.fallBack carrier) ∧
      q.progress = (p.progress.heard
        (carrier.toList.map fun a => ⟨none, .bluetoothAudioConnected, some a⟩)).gaveUp
          (if carrier = some address then none else some address) := by
  intro carrier q
  have live : p.machine.state.liveAddress = some address := by
    rw [h]
    rfl
  have cue : p.cue pauses (.audioLost (some address)) = .fallBack carrier := if_pos live
  have state := (p.handled_obeys pauses (.audioLost (some address))).state
  have simple (origin destination : AudioRoute) (destinationActive : Bool) (ticket : Ticket) :
      Message.audioLost (some address) ≠ .beginTransition origin destination destinationActive ticket := nofun
  have progress := p.progress_handled pauses simple
  unfold given at progress
  rw [cue] at state progress
  change q.machine.state = p.machine.state.after _ at state
  rw [h] at state progress
  refine ⟨state, progress.trans ?_⟩
  have found : RouteState.signalsTo (.connecting address) (.after (.connecting address) (.fallBack carrier)) =
      carrier.toList.map fun a => ⟨.bluetoothAudioConnected, some a⟩ := by
    cases carrier <;> rfl
  have attempt : RouteState.givenUp (.connecting address) (.after (.connecting address) (.fallBack carrier)) =
      if carrier = some address then none else some address := by
    cases carrier <;> simp [RouteState.givenUp, RouteState.after]
  rw [found, attempt]
  exact congrArg (fun cs => (p.progress.heard cs).gaveUp _) List.map_map

end Phone

/-- A loss of audio on a device that was queued when the machine entered the stay in which it connects the
device is handled in its turn. It ends the stay if that is still on by then, as audio falls back to whatever
the platform reports, and a transition that waits for audio on the device falls back to the baseline, unless
the device that audio is found on is one that it waits for. -/
theorem stale_loss_ends_stay (config : RouteConfig) (attached : List Profile) (past : List ThreadMove)
    (address : Address) (stay : (Thread.fresh config attached).Stay past address) :
    let t := (Thread.fresh config attached).run past
    let loss : Message := .audioLost (some address)
    t.isIdle = true → t.handled ++ [loss] <+: stay.entered.sent →
      ∃ rest, t.inbox = loss :: rest ∧ ∀ pauses,
        let p : Phone := { t.phone with inbox := rest }
        let carrier := ((Phone.carryingAudio p).finish pauses).value
        let q := p.handled loss pauses
        q.machine.state = RouteState.after (.connecting address) (.fallBack carrier) ∧
        q.machine.state ≠ .connecting address ∧
        ∀ T token, p.tracker.pending = some T → token ∈ T.outstanding →
          token.isSatisfiedBy ⟨.bluetoothAudioConnected, some address⟩ = true →
          (Progress.FallsBack (some address) p.progress q.progress ↔
            carrier.any (fun a => token.isSatisfiedBy ⟨.bluetoothAudioConnected, some a⟩) = false) := by
  intro t loss idle stale
  have running : .stop ∉ past := Thread.not_stopped_of_idle idle
  have doing : (Thread.fresh config attached).Doing := Thread.doing_fresh config attached
  have queued : t.handled ++ [loss] <+: t.handled ++ t.inbox :=
    stale.trans (doing.sent_prefix running stay.within List.prefix_rfl)
  obtain ⟨rest, next⟩ := (List.prefix_append_right_inj _).mp queued
  refine ⟨rest, next.symm, ?_⟩
  intro pauses p carrier q
  have connecting : p.machine.state = .connecting address := stay.current.state
  obtain ⟨state, progress⟩ := p.handled_lost_attempt pauses connecting
  refine ⟨state, ?_, fun T token pending mem awaited => ?_⟩
  · rw [state]
    exact RouteState.after_fallBack_ne _ carrier address
  · have planned : T.Planned := Thread.planned_run config attached past idle T pending
    rw [progress]
    exact Progress.attempt_fallsBack_iff pending planned.distinct mem awaited carrier

/-- A transition to an accessory that audio was switched away from, and whose loss is queued behind its
begin. -/
theorem stale_loss_ends_stay_of_switch :
    let first : Address := ⟨10, 0, 0, 0, 0, 1⟩
    let second : Address := ⟨10, 0, 0, 0, 0, 2⟩
    let offered : CommunicationDevice := ⟨1, .bleHeadset, some first⟩
    let past : List ThreadMove := [.start,
      .outside (.post (.deviceAdded ⟨first, .audioSink⟩ .leAudio)),
      .outside (.post (.deviceAdded ⟨second, .audioSink⟩ .leAudio)), .handle, .handle,
      .outside (.platform { audio := { available := [offered] } }),
      .outside (.post (.connect (some first))), .handle,
      .outside (.post (.connect (some second))),
      .outside (.post (.beginTransition ⟨.earpiece, none⟩ ⟨.bleHeadset, some first⟩ true 0)),
      .handle, .handle]
    let t := (Thread.fresh {} [.classicHeadset, .leAudio]).run past
    t.isIdle = true ∧ t.inbox = [.audioLost (some first)] ∧
      t.phone.machine.state = .connecting first ∧ ∀ pauses,
        let p : Phone := { t.phone with inbox := [] }
        let q := p.handled (.audioLost (some first)) pauses
        q.machine.state ≠ .connecting first ∧ Progress.FallsBack (some first) p.progress q.progress := by
  intro first second offered past t
  let fresh := Thread.fresh {} [.classicHeadset, .leAudio]
  obtain ⟨stay, entered⟩ : ∃ stay : fresh.Stay past first, stay.entered = t := by
    refine ⟨⟨past.dropLast, .handle, [], rfl, 3, by decide, ⟨6000000000, by decide⟩, ?_⟩, ?_⟩
    · intro way within
      obtain rfl := List.prefix_nil.mp within
      exact ⟨by decide, by decide⟩
    · exact congrArg fresh.run (rfl : past.dropLast ++ [.handle] = past)
  have idle : t.isIdle = true := by decide
  have inbox : t.inbox = [.audioLost (some first)] := by decide
  have stale : t.handled ++ [.audioLost (some first)] <+: stay.entered.sent := by
    rw [entered, ← inbox]
    exact List.prefix_rfl
  have main := stale_loss_ends_stay {} [.classicHeadset, .leAudio] past first stay
  have run : (Thread.fresh {} [.classicHeadset, .leAudio]).run past = t := rfl
  rw [run] at main
  obtain ⟨rest, next, ends⟩ := main idle stale
  have awaiting : t.phone.tracker.isAwaiting ⟨.bluetoothAudioConnected, some first⟩ = true := by decide
  have unused : t.phone.registry.active.classicHeadset = none := by decide
  have silent : t.phone.communicationCarrier = none := by decide
  refine ⟨idle, inbox, by decide, fun pauses => ?_⟩
  obtain rfl : rest = [] := (List.cons.inj (next.symm.trans inbox)).2
  have found := ends pauses
  -- The run itself is not to be evaluated any more.
  clear_value t
  intro p
  have carrier : ((Phone.carryingAudio p).finish pauses).value = none :=
    (Phone.carryingAudio_of_unused (p := p) pauses unused).trans silent
  obtain ⟨T, pending, awaited⟩ := (Option.any_eq_true _ _).mp awaiting
  obtain ⟨token, mem, satisfied⟩ := List.any_eq_true.mp awaited
  refine ⟨found.2.1, (found.2.2 T token pending mem satisfied).mpr ?_⟩
  rw [carrier]
  rfl

/-- The loss that the teardown of an earlier session reports ends the next attempt to connect the same
accessory, and fails the transition that waits for it. -/
theorem switched_back_connection_ends :
    let first : Address := ⟨10, 0, 0, 0, 0, 1⟩
    let second : Address := ⟨10, 0, 0, 0, 0, 2⟩
    let offered : CommunicationDevice := ⟨1, .bleHeadset, some first⟩
    let past : List ThreadMove := [.start,
      .outside (.post (.deviceAdded ⟨first, .audioSink⟩ .leAudio)),
      .outside (.post (.deviceAdded ⟨second, .audioSink⟩ .leAudio)), .handle, .handle,
      .outside (.platform { audio := { available := [offered] } }),
      .outside (.post (.connect (some first))), .handle,
      .outside (.post (.connect (some second))),
      .outside (.post (.beginTransition ⟨.earpiece, none⟩ ⟨.bleHeadset, some first⟩ true 0))]
    let t := (Thread.fresh {} [.classicHeadset, .leAudio]).run past
    let switched := t.run [.handle]
    let entered := switched.run [.handle]
    let after := entered.run [.handle]
    t.phone.registry.communication = some (first, .bleHeadset) ∧
      switched.phone.machine.state = .connecting second ∧
      audioOperations switched.phone.journal =
        [.audioRequested first, .audioReleased, .audioRequested second] ∧
      switched.inbox.tail = [.audioLost (some first)] ∧
      entered.phone.machine.state = .connecting first ∧ entered.inbox = [.audioLost (some first)] ∧
      entered.phone.tracker.isAwaiting ⟨.bluetoothAudioConnected, some first⟩ = true ∧
      after.phone.machine.state = .audioOff ∧ after.phone.tracker.pending = none ∧
      Bench.transitionEvents after.phone.journal = [.switchToBaseline (some first)] := by
  decide

end CallAudio

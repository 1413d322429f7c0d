import CallAudio.Proofs.Automaton
import CallAudio.Proofs.ConnectionTimer
import CallAudio.Proofs.Sent

/-! Connection timeouts that were queued before the machine entered the state that they end. A timeout
carries nothing but an address, so it ends whichever stay at that address is on when it is handled. -/
namespace CallAudio

namespace Thread

variable {t : Thread} {moves : List ThreadMove} {address : Address}

/-- A firing comes before a stay, possibly as the move that enters it, or after. -/
theorem Firing.order (f : Firing t moves) (s : Stay t moves address) :
    f.earlier ++ [.outside (.fire f.timer.id)] <+: s.earlier ++ [s.entry] ∨
      s.earlier ++ [s.entry] <+: f.earlier := by
  have first : f.earlier ++ [.outside (.fire f.timer.id)] <+: moves :=
    ⟨f.later, (List.append_assoc ..).trans f.split.symm⟩
  rcases List.prefix_or_prefix_of_prefix first s.within with before | after
  · exact Or.inl before
  · rcases List.prefix_concat_iff.mp after with same | after
    · exact Or.inl (same ▸ List.prefix_rfl)
    · exact Or.inr after

/-- A timer that fires for a connection is that of a stay exactly if all that had been posted when the state
was entered was posted before it fired. -/
theorem Firing.own_iff (f : Firing t moves) (s : Stay t moves address) (doing : t.Doing)
    (underway : t.Underway) (sound : t.phone.alarms.Sound) (running : .stop ∉ moves)
    (connection : f.timer.value.slot? = some .connection) :
    f.timer.id = s.timer ↔ s.entered.sent <+: f.before.sent := by
  have soundAt (past : List ThreadMove) : (t.run past).phone.alarms.Sound :=
    (run_keeps_phone Phone.alarms_sound_kept underway sound past).2
  rcases f.order s with before | after
  · -- What fires before the state is entered was armed by then, so it has another number.
    refine iff_of_false (fun own => ?_) fun queued => ?_
    · have earlier : f.earlier <+: s.earlier := by
        rcases List.prefix_concat_iff.mp before with same | before
        · exact (List.append_inj_left' same rfl) ▸ List.prefix_rfl
        · exact (List.prefix_append _ _).trans before
      obtain ⟨others, he⟩ := earlier
      have given : (t.run f.earlier).phone.alarms.Absent (fun _ => False) f.timer.id :=
        ⟨(soundAt f.earlier).lt_of_mem f.armed, fun _ h => h.elim⟩
      have underway' := (run_keeps_phone Phone.alarms_sound_kept underway sound f.earlier).1
      have given' := (run_keeps_phone (Phone.absent_kept _ f.timer.id) underway' given others).2.1
      rw [← run_append, he] at given'
      exact absurd given' (Nat.not_lt.mpr (own ▸ s.new))
    · have posted := (doing.sent_prefix running before s.within).trans queued
      rw [f.posted] at posted
      have length := posted.length_le
      rw [List.length_append, List.length_singleton] at length
      exact absurd length (Nat.not_succ_le_self _)
  · refine iff_of_true ?_ (doing.sent_prefix running after ⟨_, f.split.symm⟩)
    obtain ⟨mid, hm⟩ := after
    have past : f.earlier = s.earlier ++ s.entry :: mid := hm.symm.trans (List.append_assoc ..)
    have during : mid <+: s.later := by
      have split : s.earlier ++ s.entry :: (mid ++ .outside (.fire f.timer.id) :: f.later) =
          s.earlier ++ s.entry :: s.later := by
        rw [← s.split, ← List.cons_append, ← List.append_assoc, ← past]
        exact f.split.symm
      exact ⟨_, (List.cons.inj (List.append_cancel_left split)).2⟩
    have held := (s.stays mid during).held
    rw [← past] at held
    obtain ⟨slot, hs, owned⟩ := (soundAt f.earlier).owned f.timer f.armed
    obtain rfl := Option.some.inj (connection.symm.trans hs)
    exact Option.some.inj (owned.symm.trans held)

end Thread

/-- A connection timeout for a state that the machine is not in changes nothing. -/
theorem Phone.handled_stale_connectionTimeout {p : Phone} (tidy : p.Tidy) {address : Address}
    (h : p.machine.state ≠ .connecting address) (pauses : Pauses) :
    p.handled (.connectionTimeout address) pauses = p.record (.handled (.connectionTimeout address)) := by
  let q := p.record (.handled (.connectionTimeout address))
  have ignored : onConnectionTimeout address q = .done () q := by
    change (if p.machine.state = .connecting address then _ else pure () : Job Unit) q = _
    rw [if_neg h]
    rfl
  rw [handled_eq]
  unfold act
  change accounted _ _ ((onConnectionTimeout address q).finish pauses).phone = _
  rw [ignored]
  exact accounted_of_same rfl tidy

/-- A connection timeout ends the stay that is on, as audio falls back. -/
theorem Phone.handled_connectionTimeout_leaves {p : Phone} {address : Address}
    (h : p.machine.state = .connecting address) (pauses : Pauses) :
    (p.handled (.connectionTimeout address) pauses).machine.state ≠ .connecting address := by
  have state := (p.handled_obeys pauses (.connectionTimeout address)).state
  have cue : p.cue pauses (.connectionTimeout address) = p.fallBackCue pauses := if_pos h
  rw [cue] at state
  change (p.handled (.connectionTimeout address) pauses).machine.state = _ at state
  rw [state]
  exact RouteState.after_fallBack_ne _ _ address

/-- Where connection timeouts are posted by timers only, one that is handled in its connecting state was
posted when some connection timer fired, and it ends the state whichever timer that was. It was the timer
that was armed on entering this very state exactly if all that had been posted by then is handled, so a
timeout that was already queued ends a state that it was not meant for. -/
theorem connection_timeout_own_iff (config : RouteConfig) (attached : List Profile)
    (past : List ThreadMove) (address : Address) (rest : List Message)
    (timed : ∀ m ∈ past, m.Only (Outside.SparesSlot .connection)) :
    let t := (Thread.fresh config attached).run past
    let message : Message := .connectionTimeout address
    let p : Phone := { t.phone with inbox := rest }
    t.isIdle = true → t.inbox = message :: rest →
      (t.phone.machine.state ≠ .connecting address →
        ∀ pauses, p.handled message pauses = p.record (.handled message)) ∧
      (t.phone.machine.state = .connecting address →
        ∃ (stay : (Thread.fresh config attached).Stay past address)
          (firing : (Thread.fresh config attached).Firing past),
          firing.timer.value = message ∧ firing.before.sent = t.handled ∧
          (∀ pauses, (p.handled message pauses).machine.state ≠ .connecting address) ∧
          (firing.timer.id = stay.timer ↔ stay.entered.sent <+: t.handled)) := by
  intro t message p idle queued
  obtain ⟨watched, tidy⟩ := (Thread.reaches_fresh_run config attached past idle).watched
  refine ⟨fun other pauses => ?_, fun connecting => ?_⟩
  · have tidy' : p.Tidy := tidy
    exact Phone.handled_stale_connectionTimeout tidy' other pauses
  · have running : .stop ∉ past := Thread.not_stopped_of_idle idle
    have doing := Thread.doing_fresh config attached
    have sent : t.sent = t.handled ++ message :: rest := congrArg (t.handled ++ ·) queued
    obtain ⟨stay⟩ := Thread.stay_of_connecting config attached watched.opened connecting
    obtain ⟨firing, posted, value⟩ := doing.fired running timed rfl List.not_mem_nil sent
    refine ⟨stay, firing, value, posted, Phone.handled_connectionTimeout_leaves connecting, ?_⟩
    rw [← posted]
    exact firing.own_iff stay doing (Thread.underway_fresh config attached)
      (Phone.watched_start config attached).sound running (value ▸ rfl)

/-- A connection that is not answered in time. -/
theorem connection_timeout_own_iff_of_unanswered :
    let headset : Address := ⟨10, 0, 0, 0, 0, 1⟩
    let past : List ThreadMove := [.start,
      .outside (.post (.deviceAdded ⟨headset, .audioSink⟩ .classicHeadset)), .handle,
      .outside (.post (.connect (some headset))), .handle,
      .outside (.pass 6000000000), .outside (.fire 0)]
    let t := (Thread.fresh {} [.classicHeadset]).run past
    (∀ m ∈ past, m.Only (Outside.SparesSlot .connection)) ∧ t.isIdle = true ∧
      t.inbox = [.connectionTimeout headset] ∧ t.phone.machine.state = .connecting headset ∧
      ∃ (stay : (Thread.fresh {} [.classicHeadset]).Stay past headset)
        (firing : (Thread.fresh {} [.classicHeadset]).Firing past),
        firing.timer.value = .connectionTimeout headset ∧ firing.before.sent = t.handled ∧
        (firing.timer.id = stay.timer ↔ stay.entered.sent <+: t.handled) := by
  intro headset past t
  have timed : ∀ m ∈ past, m.Only (Outside.SparesSlot .connection) := by
    simp [past, ThreadMove.Only, Outside.SparesSlot, Message.slot?]
  have idle : t.isIdle = true := by decide
  have queued : t.inbox = [.connectionTimeout headset] := by decide
  have connecting : t.phone.machine.state = .connecting headset := by decide
  have main := connection_timeout_own_iff {} [.classicHeadset] past headset [] timed
  -- The run is named in the theorem as well, so that nothing needs to be computed to apply it.
  have run : (Thread.fresh {} [.classicHeadset]).run past = t := rfl
  rw [run] at main
  obtain ⟨stay, firing, value, posted, -, own⟩ := (main idle queued).2 connecting
  exact ⟨timed, idle, queued, connecting, stay, firing, value, posted, own⟩

/-- The timeout of a connection that was lost ends a later one to the same device, whose own timer is still
armed. -/
theorem stale_connection_timeout_ends_connection :
    let headset : Address := ⟨10, 0, 0, 0, 0, 1⟩
    let past : List ThreadMove := [.start,
      .outside (.post (.deviceAdded ⟨headset, .audioSink⟩ .classicHeadset)), .handle,
      .outside (.post (.connect (some headset))), .handle,
      .outside (.post (.audioLost (some headset))), .outside (.post (.connect (some headset))),
      .outside (.pass 6000000000), .outside (.fire 0)]
    let t := (Thread.fresh {} [.classicHeadset]).run past
    let left := t.run [.handle]
    let entered := left.run [.handle]
    let after := entered.run [.handle]
    t.phone.machine.state = .connecting headset ∧ t.phone.machine.connectionTimer = some 0 ∧
      left.phone.machine.state = .audioOff ∧
      entered.phone.machine.state = .connecting headset ∧
      entered.phone.machine.connectionTimer = some 1 ∧ entered.phone.timers.isArmed 1 = true ∧
      entered.inbox = [.connectionTimeout headset] ∧ after.phone.machine.state = .audioOff := by
  decide

end CallAudio

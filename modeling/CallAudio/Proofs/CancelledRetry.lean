import CallAudio.Proofs.Automaton
import CallAudio.Proofs.Moments

/-! Retries that are cancelled. A retry that is dropped is never armed again, but a message it posted
before that is handled like any other, as nothing in it tells which retry it came from. -/
namespace CallAudio

namespace Phone
open Alarms

theorem alarms_stop (t : Thread) : t.stop.phone.alarms = ⟨t.phone.timers.clear, fun _ => none⟩ := by
  refine congrArg (Alarms.mk _) (funext fun s => ?_)
  cases s <;> rfl

theorem alarms_sound_kept : Kept fun p => p.alarms.Sound where
  deed deed sound := deed.turnovers.sound sound
  outside o sound := alarms_sound_outside sound o
  taken _ sound := sound
  stopped _ := by
    rw [alarms_stop]
    exact sound_of_none _ rfl

theorem absent_kept (places : Slot → Prop) (id : Nat) :
    Kept fun p => p.alarms.Absent places id where
  deed deed absent := deed.turnovers.absent absent
  outside {p} o absent := by
    rcases p.outside_alarms o with ha | ⟨t, -, ha⟩
    · rwa [ha]
    · rw [ha]
      exact absent
  taken _ absent := absent
  stopped absent := by
    rw [alarms_stop]
    exact ⟨absent.1, fun _ _ => nofun⟩

end Phone

/-- A retry that is dropped is held nowhere any more, so from then on its timer is not armed. -/
theorem Thread.dropped_retry_disarmed (config : RouteConfig) (attached : List Profile)
    (past cancel later : List ThreadMove) {timer : Nat}
    (held : ((fresh config attached).run past).phone.machine.retry = some timer)
    (gone : (((fresh config attached).run past).run cancel).phone.machine.retry ≠ some timer) :
    ((((fresh config attached).run past).run cancel).run later).phone.timers.isArmed timer = false := by
  let t := (fresh config attached).run past
  let dropped := t.run cancel
  obtain ⟨underway, sound⟩ := run_keeps_phone Phone.alarms_sound_kept (underway_fresh config attached)
    (Phone.watched_start config attached).sound past
  obtain ⟨underway', sound'⟩ := run_keeps_phone Phone.alarms_sound_kept underway sound cancel
  have sound'' := (run_keeps_phone Phone.alarms_sound_kept underway' sound' later).2
  -- As the retry held the timer no other place did, and none has come to.
  have elsewhere : t.phone.alarms.Absent (· ≠ .retry) timer :=
    ⟨sound.fresh .retry timer held, fun s hs held' => hs (sound.apart s .retry timer held' held)⟩
  have elsewhere' : dropped.phone.alarms.Absent (· ≠ .retry) timer :=
    (run_keeps_phone (Phone.absent_kept _ timer) underway elsewhere cancel).2
  have absent : dropped.phone.alarms.Absent (fun _ => True) timer := by
    refine ⟨elsewhere'.1, fun s _ => ?_⟩
    by_cases hs : s = .retry
    · rw [hs]
      exact gone
    · exact elsewhere'.2 s hs
  have absent' := (run_keeps_phone (Phone.absent_kept _ timer) underway' absent later).2
  refine List.any_eq_false.mpr fun u hu => ?_
  rw [decide_eq_true_eq]
  exact sound''.not_mem_of_absent absent' hu

namespace Phone

/-- A retry that is due passes without any audio operation: its device is live, the retries are used
up, or the device that the connect would go to is live or there is none. -/
def LetsPass (p : Phone) (address : Address) (attempt : Nat) : Prop :=
  p.machine.state.liveAddress = some address ∨ maxRetries < attempt ∨
    ∀ target, p.registry.connectTarget (some address) p.machine.recent = some target →
      p.machine.state.liveAddress = some target

/-- The operations for a retry that is due. -/
def retryOperations (p : Phone) (address : Address) (attempt : Nat) : List Happening :=
  if attempt ≤ maxRetries ∧ p.machine.state.liveAddress ≠ some address then
    ((p.registry.connectTarget (some address) p.machine.recent).map
      p.machine.state.operationsFor).getD []
  else []

theorem operationsFor_eq_nil {s : RouteState} {target : Address} :
    s.operationsFor target = [] ↔ s.liveAddress = some target := by
  refine ⟨fun none => ?_, RouteState.operationsFor_live⟩
  by_contra other
  have requested := RouteState.requested_mem_operationsFor other
  rw [none] at requested
  cases requested

theorem retryOperations_eq_nil (p : Phone) (address : Address) (attempt : Nat) :
    p.retryOperations address attempt = [] ↔ p.LetsPass address attempt := by
  unfold retryOperations LetsPass
  by_cases due : attempt ≤ maxRetries ∧ p.machine.state.liveAddress ≠ some address
  · obtain ⟨left, notLive⟩ := due
    rw [if_pos ⟨left, notLive⟩, or_iff_right notLive, or_iff_right (Nat.not_lt.mpr left)]
    cases p.registry.connectTarget (some address) p.machine.recent with
    | none => exact iff_of_true rfl nofun
    | some target =>
      refine operationsFor_eq_nil.trans ⟨fun live target' he => ?_, fun h => h target rfl⟩
      exact Option.some.inj he ▸ live
  · rw [if_neg due]
    refine iff_of_true rfl ?_
    rcases not_and_or.mp due with used | live
    · exact Or.inr (Or.inl (Nat.not_le.mp used))
    · exact Or.inl (not_not.mp live)

/-- The operations that are asked for while a retry is handled. -/
theorem handled_retry_operations (p : Phone) (pauses : Pauses) (address : Address) (attempt : Nat) :
    audioOperations (p.handled (.retryConnect address attempt) pauses).journal =
      audioOperations p.journal ++ p.retryOperations address attempt := by
  let q := p.record (.handled (.retryConnect address attempt))
  have noted : q.route = p.route := p.route_record rfl
  have operations : ((act (.retryConnect address attempt) q).finish pauses).phone.route.operations =
      q.route.operations ++ q.retryOperations address attempt := by
    rw [act_retryConnect_finish]
    unfold retryOperations
    split
    · exact (congrArg Route.operations (route_onConnectOutcome _ _)).trans
        (congrArg Route.operations (q.connect_route pauses (some address) attempt))
    · exact (List.append_nil _).symm
  have handled := congrArg Route.operations (p.handled_route pauses (.retryConnect address attempt))
  rw [noted] at operations
  exact handled.trans operations

end Phone

/-- What comes of a retry that has been dropped: its timer is disarmed for good, but any retry that is
queued by then is handled in its turn, and asks for audio operations unless the phone lets it pass. -/
structure Cancelled (timer : Nat) (dropped : Thread) : Prop where
  disarmed : ∀ later, (dropped.run later).phone.timers.isArmed timer = false
  queued : ∀ moves k address attempt pauses,
    let before := dropped.run moves
    dropped.isIdle = true → dropped.inbox[k]? = some (.retryConnect address attempt) →
    before.isIdle = true → before.handled = dropped.handled ++ dropped.inbox.take k →
    ∃ rest, before.inbox = .retryConnect address attempt :: rest ∧
      let p : Phone := { before.phone with inbox := rest }
      let q := p.handled (.retryConnect address attempt) pauses
      (audioOperations q.journal = audioOperations p.journal ↔ p.LetsPass address attempt)

/-- Whenever the thread has dropped a retry that it held, a message that the retry posted before still
does what any retry does; it is spared only where the phone lets it pass. -/
theorem cancelled_retry_spares_iff (config : RouteConfig) (attached : List Profile)
    (past cancel : List ThreadMove) (timer : Nat) :
    let t := (Thread.fresh config attached).run past
    let dropped := t.run cancel
    t.phone.machine.retry = some timer → dropped.phone.machine.retry ≠ some timer →
      Cancelled timer dropped := by
  intro t dropped held gone
  refine ⟨fun later => Thread.dropped_retry_disarmed config attached past cancel later held gone, ?_⟩
  intro moves k address attempt pauses before idle queued idle' reached
  have way : Via Stride dropped.phone before.phone :=
    (Thread.onward_run (Thread.onward_idle idle) moves).via_of_idle idle'
  obtain ⟨posted, inbox⟩ := way.inbox_of_handled reached
  obtain ⟨hk, message⟩ := List.getElem?_eq_some_iff.mp queued
  -- What was queued is handled in order, so by then the retry is the next message.
  have next : before.inbox = .retryConnect address attempt ::
      (dropped.inbox.drop (k + 1) ++ posted) := by
    change before.phone.inbox = _
    rw [inbox]
    change dropped.inbox.drop k ++ posted = _
    rw [List.drop_eq_getElem_cons hk, message, List.cons_append]
  refine ⟨_, next, ?_⟩
  intro p q
  have operations : audioOperations q.journal =
      audioOperations p.journal ++ p.retryOperations address attempt :=
    p.handled_retry_operations pauses address attempt
  rw [operations, List.append_right_eq_self]
  exact p.retryOperations_eq_nil address attempt

/-- The retry that is to be handled next. -/
theorem Cancelled.next {timer : Nat} {dropped : Thread} (h : Cancelled timer dropped)
    (idle : dropped.isIdle = true) {address : Address} {attempt : Nat} {rest : List Message}
    (queued : dropped.inbox = .retryConnect address attempt :: rest) (pauses : Pauses) :
    let p : Phone := { dropped.phone with inbox := rest }
    let q := p.handled (.retryConnect address attempt) pauses
    (audioOperations q.journal = audioOperations p.journal ↔ p.LetsPass address attempt) := by
  have first : dropped.inbox[0]? = some (.retryConnect address attempt) := by
    rw [queued]
    rfl
  obtain ⟨rest', next, iff⟩ := h.queued [] 0 address attempt pauses idle first idle
    (List.append_nil _).symm
  obtain rfl : rest = rest' := (List.cons.inj (queued.symm.trans next)).2
  exact iff

/-- A disconnect drops a retry whose message is queued behind it. -/
theorem cancelled_retry_spares_iff_after_disconnect :
    let headset : Address := ⟨10, 0, 0, 0, 0, 1⟩
    let past : List ThreadMove := [.start,
      .outside (.post (.deviceAdded ⟨headset, .audioSink⟩ .classicHeadset)), .handle,
      .outside (.platform { adapter := { rejected := [headset] } }),
      .outside (.post (.connect (some headset))), .handle, .outside (.platform {}),
      .outside (.post .disconnect), .outside (.pass 1000000000), .outside (.fire 0)]
    let pauses : Pauses := fun _ => ⟨true, []⟩
    let t := (Thread.fresh {} [.classicHeadset]).run past
    let dropped := t.run [.handle]
    t.phone.machine.retry = some 0 ∧ dropped.phone.machine.retry = none ∧
      dropped.inbox = [.retryConnect headset 1] ∧ Cancelled 0 dropped ∧
      let p : Phone := { dropped.phone with inbox := [] }
      let q := p.handled (.retryConnect headset 1) pauses
      (audioOperations q.journal = audioOperations p.journal ↔ p.LetsPass headset 1) := by
  intro headset past pauses t
  have held : t.phone.machine.retry = some 0 := by decide
  have gone : (t.run [.handle]).phone.machine.retry ≠ some 0 := by decide
  have idle : (t.run [.handle]).isIdle = true := by decide
  have queued : (t.run [.handle]).inbox = [.retryConnect headset 1] := by decide
  have main := cancelled_retry_spares_iff {} [.classicHeadset] past [.handle] 0
  have run : (Thread.fresh {} [.classicHeadset]).run past = t := rfl
  rw [run] at main
  have cancelled : Cancelled 0 (t.run [.handle]) := main held gone
  have none : (t.run [.handle]).phone.machine.retry = none := by decide
  exact ⟨held, none, queued, cancelled, cancelled.next idle queued pauses⟩

/-- A retry that was queued when a disconnect dropped it requests audio all the same. -/
theorem cancelled_retry_requests_audio :
    let headset : Address := ⟨10, 0, 0, 0, 0, 1⟩
    let past : List ThreadMove := [.start,
      .outside (.post (.deviceAdded ⟨headset, .audioSink⟩ .classicHeadset)), .handle,
      .outside (.platform { adapter := { rejected := [headset] } }),
      .outside (.post (.connect (some headset))), .handle, .outside (.platform {}),
      .outside (.post .disconnect), .outside (.pass 1000000000), .outside (.fire 0)]
    let t := (Thread.fresh {} [.classicHeadset]).run past
    let dropped := t.run [.handle]
    let after := dropped.run [.handle]
    t.phone.machine.retry = some 0 ∧ dropped.phone.machine.retry = none ∧
      dropped.phone.machine.state = .audioOff ∧ dropped.inbox = [.retryConnect headset 1] ∧
      audioOperations dropped.phone.journal = [.audioRequested headset, .audioReleased] ∧
      audioOperations after.phone.journal =
        [.audioRequested headset, .audioReleased, .audioRequested headset] ∧
      after.phone.machine.state = .connecting headset := by
  decide

end CallAudio

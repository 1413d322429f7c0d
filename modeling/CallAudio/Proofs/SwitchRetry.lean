import CallAudio.Proofs.AwaitedRetry

/-! The retry of a connect that was rejected after it tore down the live device. The loss that the teardown
brings about moves the machine, and with its retry the request is dropped without a word. -/
namespace CallAudio

/-- The attempt that a request makes; all but retries make the first one. -/
def Message.attempt : Message → Nat
  | .retryConnect _ attempt => attempt
  | _ => 0

/-- The retry that the message stands for is armed and awaited. -/
def ArmsRetry (s : RouteState) (message : Message) (p : Phone) : Prop :=
  ∃ timer ∈ p.timers.armed, timer.value = message ∧ AwaitsRetry s timer p

section
variable {s : RouteState} {p q : Phone} {pauses : Pauses} {target : Address}

theorem ArmsRetry.touches {message : Message} (h : ArmsRetry s message p) (way : Touches [] p q) :
    ArmsRetry s message q := by
  refine way.keeps (P := ArmsRetry s message) (fun p q touch => ?_) h
  rintro ⟨timer, mem, value, awaits⟩
  have spared : Spared p q := touch.spared_of_unmoved (by simp) (by simp)
  exact ⟨timer, awaits.mem_spared spared mem, value, awaits.spared spared⟩

namespace Steady

theorem touches {cs : List Concern} (h : Steady s p) (way : Touches cs p q) (unasked : .retry ∉ cs)
    (unmoved : .state ∉ cs) : Steady s q :=
  way.keeps (fun _ _ touch steady => steady.spared (touch.spared_of_unmoved unasked unmoved)) h

/-- A rejected attempt is followed by a retry as long as there are any left. -/
theorem onRejected (h : Steady s p) {attempt : Nat} (left : attempt < maxRetries)
    (target : Address) (failure : ConnectFailure) :
    ArmsRetry s (.retryConnect target (attempt + 1)) (p.onRejected target attempt failure) := by
  let noted := p.note (.connectFailed target attempt failure)
  let due := noted.now + (noted.config.backoff (attempt + 1)).toNanos
  let message : Message := .retryConnect target (attempt + 1)
  let timer : Timer Message := ⟨noted.timers.nextId, due, message⟩
  have scheduled : p.onRejected target attempt failure = noted.scheduleRetry target (attempt + 1) :=
    if_pos left
  have alarms : (noted.scheduleRetry target (attempt + 1)).alarms =
      noted.alarms.keep .retry due message := noted.alarms_scheduleRetry target (attempt + 1)
  have sound : noted.alarms.Sound := h.sound
  have armed : timer ∈ (noted.scheduleRetry target (attempt + 1)).alarms.timers.armed := by
    rw [alarms]
    exact sound.mem_keep .retry due message
  have kept : (noted.scheduleRetry target (attempt + 1)).alarms.Sound := by
    rw [alarms]
    exact sound.keep .retry due rfl
  have held : (noted.scheduleRetry target (attempt + 1)).alarms.held .retry = some timer.id := by
    rw [alarms]
    exact noted.alarms.keep_held_self .retry due message
  have view : (noted.scheduleRetry target (attempt + 1)).view = noted.view :=
    noted.view_scheduleRetry target (attempt + 1)
  have opened : (noted.scheduleRetry target (attempt + 1)).closed = p.closed := by
    rw [Phone.scheduleRetry_eq]
    rfl
  rw [scheduled]
  refine ⟨timer, armed, rfl, ⟨⟨kept, opened.trans h.opened, ?_⟩, held, Or.inl armed⟩⟩
  exact (congrArg RouteView.state view).trans h.state

theorem requestAudio (h : Steady s p) (switching : Bool) :
    Steady s ((Phone.requestAudio target switching p).finish pauses).phone := by
  have asked : (Phone.requestAudio target switching).Does [.services] :=
    Job.Does.bind (Job.does_when _ (Phone.disconnectAudio_does (by simp))) fun _ =>
      Phone.connectAudio_does (by simp) target switching
  have kept : (Phone.requestAudio target switching p).Upholds (Steady s) fun _ q => Steady s q := by
    apply (asked p).upholds _ h
    intro p q touch steady
    exact steady.spared (touch.spared_of_unmoved (by simp) (by simp))
  exact kept.finish (fun _ o steady => steady.outside o) pauses

/-- A connect to another device than the live one that is rejected leaves its retry armed. -/
theorem connect_rejected (h : Steady s p) {requested : Option Address} {attempt : Nat}
    (other : s.liveAddress ≠ some target) (left : attempt < maxRetries)
    (cue : p.connectCue requested pauses = .connect (some target) false) :
    let connected := (Phone.connect requested attempt p).finish pauses
    connected.value = .rejected target ∧
      ArmsRetry s (.retryConnect target (attempt + 1)) connected.phone := by
  let q := p.requested attempt
  obtain ⟨services, state, recent, -⟩ := p.requested_same attempt
  rw [← Phone.connectCue_of_services services state recent] at cue
  have ready : Steady s q := by
    have dropped : Alarms.Turnovers (fun _ => True) p.alarms p.dropRetry.alarms :=
      p.turnover_dropRetry trivial
    have kept := dropped.sound h.sound
    change Steady s (if attempt = 0 then p.dropRetry else p)
    split
    · rw [Phone.dropRetry_eq] at kept ⊢
      exact ⟨kept, h.opened, h.state⟩
    · exact h
  have found := Phone.connectTarget_of_connectCue cue
  have elsewhere : q.machine.state.liveAddress ≠ some target := by
    rw [ready.state]
    exact other
  have answered : Steady s ((Phone.requestAudio target (q.isSwitching target) q).finish pauses).phone :=
    ready.requestAudio _
  rw [Phone.connectCue_some found] at cue
  have refused := (Cue.connect.inj cue).2
  rw [Phone.connect_finish, found, Phone.connectEnds_other elsewhere, Phone.startConnect_eq, Job.finish_bind]
  generalize (Phone.requestAudio target (q.isSwitching target) q).finish pauses = answer at *
  obtain ⟨value, r, rest⟩ := answer
  cases value with
  | ok => cases refused
  | error failure => exact ⟨rfl, answered.onRejected left target failure⟩

/-- A transition whose connect is rejected leaves the retry armed. -/
theorem begin_rejected (h : Steady s p) {origin destination : AudioRoute} {destinationActive : Bool}
    (ticket : Ticket) (other : s.liveAddress ≠ some target)
    (connects : .connectBluetooth destination.address ∈
      (p.tracker.begin origin destination destinationActive).2.1)
    (cue : p.connectCue destination.address pauses = .connect (some target) false) :
    ArmsRetry s (.retryConnect target 1)
      (p.handled (.beginTransition origin destination destinationActive ticket) pauses) := by
  let noted := p.record (.handled (.beginTransition origin destination destinationActive ticket))
  let begun := noted.prepared origin destination destinationActive
  let connected := (Phone.connect destination.address 0 begun).finish pauses
  obtain ⟨services, machine⟩ : begun.services = p.services ∧ begun.machine = p.machine :=
    ⟨(noted.begun_same origin destination destinationActive).1,
      (noted.begun_same origin destination destinationActive).2.1⟩
  rw [← Phone.connectCue_of_services services (congrArg Machine.state machine)
    (congrArg Machine.recent machine)] at cue
  have way : Touches [.start origin destination destinationActive] noted begun :=
    .single (.begun origin destination destinationActive List.mem_cons_self)
  have ready : Steady s begun := by
    have steady : Steady s noted := ⟨h.sound, h.opened, h.state⟩
    exact steady.touches way (by simp) (by simp)
  obtain ⟨-, armed⟩ := ready.connect_rejected other (Nat.zero_lt_succ _) cue
  have performed : Touches [] connected.phone
      (connected.phone.record (.performed (.connectBluetooth destination.address))) :=
    .single (.recorded _ rfl)
  rw [p.handled_begin_connect pauses ticket connects]
  apply armed.touches
  apply performed.trans
  apply (Phone.onConnectOutcome_touches _ _).trans
  exact (Phone.onStateChanged_touches _ _).trans (Phone.concluded_touches _ _ _)

/-- A request that is rejected leaves its retry armed, however it was made. -/
theorem handled_rejected (h : Steady s p) {request : Message} (other : s.liveAddress ≠ some target)
    (left : request.attempt < maxRetries) (cue : p.cue pauses request = .connect (some target) false) :
    ArmsRetry s (.retryConnect target (request.attempt + 1)) (p.handled request pauses) := by
  let noted := p.record (.handled request)
  have steady : Steady s noted := ⟨h.sound, h.opened, h.state⟩
  have asked : noted.cue pauses request = .connect (some target) false :=
    (p.cue_record pauses (.handled request) request).trans cue
  have comes := noted.comesTo pauses request
  generalize noted.cue pauses request = outcome at comes asked
  cases comes with
  | nothing | audioOn | fallBack => cases asked
  | connect requested =>
    obtain ⟨-, armed⟩ := steady.connect_rejected other left asked
    rw [Phone.handled_eq, Phone.act_connect_finish]
    exact armed.touches ((Phone.onConnectOutcome_touches _ _).trans (Phone.accounted_touches _ _ _))
  | @retry address attempt due =>
    obtain ⟨-, armed⟩ := steady.connect_rejected other left asked
    rw [Phone.handled_eq, Phone.act_retryConnect_finish, if_pos due]
    exact armed.touches ((Phone.onConnectOutcome_touches _ _).trans (Phone.accounted_touches _ _ _))
  | @transition origin destination destinationActive ticket connects =>
    have services : noted.services = p.services := rfl
    rw [Phone.connectCue_of_services services rfl rfl] at asked
    exact h.begin_rejected ticket other connects asked

end Steady
end

/-- Audio that falls back leaves the state as it is just when the device that is connected carries it. -/
theorem RouteState.after_fallBack_eq_iff {s : RouteState} {live : Address} {carrier : Option Address}
    (h : s.liveAddress = some live) :
    s.after (.fallBack carrier) = s ↔ s = .connected live ∧ carrier = some live := by
  cases carrier with
  | none =>
    refine iff_of_false ?_ nofun
    rintro (rfl : RouteState.audioOff = s)
    cases h
  | some address =>
    constructor
    · rintro (rfl : RouteState.connected address = s)
      obtain rfl := Option.some.inj h
      exact ⟨rfl, rfl⟩
    · rintro ⟨rfl, ⟨⟩⟩
      rfl

namespace Phone

def Schedules (message : Message) (p : Phone) : Prop := ∃ timer ∈ p.timers.armed, timer.value = message

/-- The messages that were posted since. -/
def postedSince (p before : Phone) : List Message :=
  (handledMessages p.journal ++ p.inbox).drop (handledMessages before.journal ++ before.inbox).length

/-- Beside a retry that is scheduled, what can have come of a request for the target that was made
before: the target is live, the retry is queued, or the failure was posted. -/
def Heeds (p before : Phone) (target : Address) (retry : Message) : Prop :=
  p.machine.state.liveAddress = some target ∨ retry ∈ p.inbox ∨
    .transitionFailed (some target) ∈ p.postedSince before

theorem Watched.turns {p : Phone} (h : p.Watched) (turns : List Turn) : (p.turns turns).Watched := by
  induction turns generalizing p with
  | nil => exact h
  | cons turn rest ih => exact ih (h.turn turn)

/-- A retry can be scheduled only while one is held. -/
theorem Watched.not_schedules {p : Phone} (h : p.Watched) (gone : p.machine.retry = none)
    {message : Message} (hm : message.slot? = some .retry) : ¬p.Schedules message := by
  rintro ⟨timer, mem, rfl⟩
  obtain ⟨slot, hs, held⟩ := h.sound.owned timer mem
  obtain rfl := Option.some.inj (hm.symm.trans hs)
  have retry : p.machine.retry = some timer.id := held
  rw [gone] at retry
  cases retry

section
variable {p : Phone} {live : Address} {left : List Message}

/-- The loss of a device is no request. -/
theorem unasked_loss (lost : p.inbox = .audioLost (some live) :: left) (pauses : Pauses) :
    ¬p.Asks (.handle pauses) := by
  rintro ⟨_, message, rest, -, queued, asks⟩
  obtain rfl := (List.cons.inj (queued.symm.trans lost)).1
  exact asks

/-- The loss of the live device leaves the state as it is just if the machine is connected to the device
and audio falls back to it. -/
theorem turn_loss_stays_iff (lost : p.inbox = .audioLost (some live) :: left)
    (hl : p.machine.state.liveAddress = some live) (pauses : Pauses) :
    (p.turn (.handle pauses)).machine.state = p.machine.state ↔ p.machine.state = .connected live ∧
      ({ p with inbox := left } : Phone).fallBackCue pauses = .fallBack (some live) := by
  let r : Phone := { p with inbox := left }
  have falls : r.cue pauses (.audioLost (some live)) = r.fallBackCue pauses := if_pos hl
  have after : (p.turn (.handle pauses)).machine.state = p.machine.state.after (r.fallBackCue pauses) := by
    rw [← falls, turn_handle lost]
    exact (r.handled_obeys pauses (.audioLost (some live))).state
  rw [after]
  have back : p.machine.state.after (r.fallBackCue pauses) = p.machine.state ↔
      p.machine.state = .connected live ∧ ((carryingAudio r).finish pauses).value = some live :=
    RouteState.after_fallBack_eq_iff hl
  exact back.trans (and_congr_right fun _ => ⟨congrArg Cue.fallBack, Cue.fallBack.inj⟩)

end

end Phone

/-- When a request for another device than the live one is rejected, its retry is scheduled. Once the loss
of the live device is handled, with no other request before that, the request is heeded exactly if the
state has stayed as it was and the platform still has audio on the device that was torn down, or else if
something other than the schedule heeds it. -/
theorem switch_heeded_iff (config : RouteConfig) (attached : List Profile)
    (past between : List Turn) (pauses last : Pauses) (request : Message) (rest left : List Message)
    (live target : Address) :
    let p := (Phone.start config attached).turns past
    let asked := p.turn (.handle pauses)
    let before := asked.turns between
    let after := before.turn (.handle last)
    let retry : Message := .retryConnect target (request.attempt + 1)
    p.inbox = request :: rest → p.machine.state.liveAddress = some live → live ≠ target →
      ({ p with inbox := rest } : Phone).cue pauses request = .connect (some target) false →
      request.attempt < maxRetries →
      (∀ past turn, past ++ [turn] <+: between → ¬(asked.turns past).Asks turn) →
      before.inbox = .audioLost (some live) :: left →
      asked.Schedules retry ∧
        (after.Schedules retry ∨ after.Heeds p target retry ↔
          (asked.Stays between ∧ p.machine.state = .connected live ∧
              ({ before with inbox := left } : Phone).fallBackCue last = .fallBack (some live)) ∨
            after.Heeds p target retry) := by
  intro p asked before after retry queued hl other cue attempts quiet lost
  let s := p.machine.state
  let q : Phone := { p with inbox := rest }
  let r : Phone := { before with inbox := left }
  have watched : p.Watched := (Phone.watched_start config attached).turns past
  have steady : Steady s q := ⟨watched.sound, watched.opened, rfl⟩
  have notLive : s.liveAddress ≠ some target := by
    rw [hl]
    exact fun he => other (Option.some.inj he)
  have handled : asked = q.handled request pauses := Phone.turn_handle queued pauses
  obtain ⟨timer, armed, value, awaits⟩ : ArmsRetry s retry asked := by
    rw [handled]
    exact steady.handled_rejected notLive attempts cue
  have slot : timer.value.slot? = some .retry := by rw [value]; rfl
  -- The loss is no request either, so that the retry is awaited up to its end or dropped on the way.
  have quiet' : ∀ past turn, past ++ [turn] <+: between ++ [.handle last] →
      ¬(asked.turns past).Asks turn := by
    intro past turn way
    rcases List.prefix_concat_iff.mp way with he | way
    · obtain ⟨rfl, ht⟩ := List.append_inj' he rfl
      obtain rfl := List.singleton_inj.mp ht
      exact Phone.unasked_loss lost last
    · exact quiet past turn way
  have fate := awaits.turns slot (between ++ [.handle last]) quiet'
  have ends : asked.turns (between ++ [.handle last]) = after := Phone.turns_concat asked between _
  have stays : asked.Stays (between ++ [.handle last]) ↔ asked.Stays between ∧
      p.machine.state = .connected live ∧ r.fallBackCue last = .fallBack (some live) := by
    rw [Phone.stays_concat]
    refine and_congr_right fun stays => ?_
    have state : before.machine.state = p.machine.state :=
      (stays between List.prefix_rfl).trans awaits.state
    have back : after.machine.state = before.machine.state ↔ before.machine.state = .connected live ∧
        r.fallBackCue last = .fallBack (some live) :=
      Phone.turn_loss_stays_iff lost (state ▸ hl) last
    have held : asked.machine.state = p.machine.state := awaits.state
    change after.machine.state = asked.machine.state ↔ _
    rwa [held, ← state]
  refine ⟨⟨timer, armed, value⟩, ?_⟩
  rw [← stays]
  rcases fate with ⟨still, stays⟩ | ⟨gone, moved⟩
  · rw [ends] at still
    refine iff_of_true ?_ (Or.inl stays)
    rcases still.due with mem | posted
    · exact Or.inl ⟨timer, mem, value⟩
    · exact Or.inr (Or.inr (Or.inl (value ▸ posted)))
  · rw [ends] at gone
    have watched' : after.Watched := ((watched.turn _).turns between).turn _
    rw [or_iff_right (watched'.not_schedules gone rfl), or_iff_right moved]

/-- A connect from one headset to another that is rejected, and the loss of the first one. -/
theorem switch_heeded_iff_of_headsets :
    let headset : Address := ⟨10, 0, 0, 0, 0, 1⟩
    let other : Address := ⟨10, 0, 0, 0, 0, 2⟩
    let pauses : Pauses := fun _ => ⟨true, []⟩
    let past : List Turn := [.outside (.post (.deviceAdded ⟨headset, .audioSink⟩ .classicHeadset)),
      .handle pauses, .outside (.post (.deviceAdded ⟨other, .audioSink⟩ .classicHeadset)), .handle pauses,
      .outside (.post (.audioOn headset)), .handle pauses, .handle pauses,
      .outside (.platform { adapter := { rejected := [other] } }),
      .outside (.post (.connect (some other)))]
    let between : List Turn := [.outside (.post (.audioLost (some headset)))]
    let p := (Phone.start {} [.classicHeadset]).turns past
    let asked := p.turn (.handle pauses)
    let before := asked.turns between
    let after := before.turn (.handle pauses)
    let retry : Message := .retryConnect other 1
    p.inbox = [.connect (some other)] ∧ p.machine.state = .connected headset ∧
      ({ p with inbox := [] } : Phone).cue pauses (.connect (some other)) = .connect (some other) false ∧
      before.inbox = [.audioLost (some headset)] ∧ asked.Schedules retry ∧
      (after.Schedules retry ∨ after.Heeds p other retry ↔
        (asked.Stays between ∧ p.machine.state = .connected headset ∧
            ({ before with inbox := [] } : Phone).fallBackCue pauses = .fallBack (some headset)) ∨
          after.Heeds p other retry) := by
  intro headset other pauses past between p asked before after retry
  have queued : p.inbox = [.connect (some other)] := by decide
  have state : p.machine.state = .connected headset := by decide
  have live : p.machine.state.liveAddress = some headset := by decide
  have cue : ({ p with inbox := [] } : Phone).cue pauses (.connect (some other)) =
      .connect (some other) false := by decide
  have quiet : ∀ past turn, past ++ [turn] <+: between → ¬(asked.turns past).Asks turn := by
    intro past turn way
    have mem : turn ∈ between := way.subset (List.mem_append_right past List.mem_cons_self)
    rw [List.mem_singleton.mp mem]
    rintro ⟨_, _, _, ⟨⟩, -⟩
  have lost : before.inbox = [.audioLost (some headset)] := by decide
  have distinct : headset ≠ other := by decide
  have left : (Message.connect (some other)).attempt < maxRetries := by decide
  have main := switch_heeded_iff {} [.classicHeadset] past between pauses pauses (.connect (some other))
    [] [] headset other
  -- What is known of the phone is enough, so that nothing needs to be computed to apply the theorem.
  have run : (Phone.start {} [.classicHeadset]).turns past = p := rfl
  rw [run] at main
  clear_value p
  obtain ⟨armed, heeded⟩ := main queued live distinct cue left quiet lost
  exact ⟨queued, state, cue, lost, armed, heeded⟩

/-- The loss of the first headset moves the machine, and nothing is left of the request for the second:
its retry is neither armed nor queued, and no failure was posted. -/
theorem rejected_switch_forgotten :
    let headset : Address := ⟨10, 0, 0, 0, 0, 1⟩
    let other : Address := ⟨10, 0, 0, 0, 0, 2⟩
    let pauses : Pauses := fun _ => ⟨true, []⟩
    let past : List Turn := [.outside (.post (.deviceAdded ⟨headset, .audioSink⟩ .classicHeadset)),
      .handle pauses, .outside (.post (.deviceAdded ⟨other, .audioSink⟩ .classicHeadset)), .handle pauses,
      .outside (.post (.audioOn headset)), .handle pauses, .handle pauses,
      .outside (.platform { adapter := { rejected := [other] } }),
      .outside (.post (.connect (some other)))]
    let p := (Phone.start {} [.classicHeadset]).turns past
    let asked := p.turn (.handle pauses)
    let after := (asked.turn (.outside (.post (.audioLost (some headset))))).turn (.handle pauses)
    p.inbox = [.connect (some other)] ∧ p.machine.state = .connected headset ∧
      audioOperations asked.journal = audioOperations p.journal ++ [.audioReleased, .audioRequested other] ∧
      asked.timers.armed.map Timer.value = [.retryConnect other 1] ∧
      asked.machine.state = .connected headset ∧ after.machine.state = .audioOff ∧
      after.timers.armed = [] ∧ after.inbox = [] ∧
      after.postedSince p = [.audioLost (some headset)] := by
  decide

end CallAudio

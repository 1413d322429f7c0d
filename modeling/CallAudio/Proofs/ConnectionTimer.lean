import CallAudio.Proofs.CancelledRetry
import CallAudio.Proofs.Stretches
import CallAudio.Proofs.Throughout

/-! The timer of a connection. It is armed when the machine enters a connecting state, and held exactly as
long as the machine stays there. -/
namespace CallAudio

/-- The state of the machine and its connection timer are left alone. -/
structure Remains (p q : Phone) : Prop where
  state : q.machine.state = p.machine.state
  timer : q.machine.connectionTimer = p.machine.connectionTimer
  closed : q.closed = p.closed
  alarms : Alarms.Turnovers (· ≠ .connection) p.alarms q.alarms

theorem Remains.of_alarms {p q : Phone} (state : q.machine.state = p.machine.state)
    (closed : q.closed = p.closed) (alarms : q.alarms = p.alarms) : Remains p q :=
  ⟨state, congrArg (fun a => a.held .connection) alarms, closed, .of_eq alarms⟩

/-- Only moves of the machine have to do with the connection timer. -/
theorem Deed.remains {m : Message} {p q : Phone} (h : Deed m p q) :
    Remains p q ∨ ∃ target, q = p.moveTo target := by
  have closed := (Phone.inbox_of_deed h).2
  cases h with
  | moved target => exact Or.inr ⟨target, rfl⟩
  | posted message =>
    have machine := (Undisturbed.post p message).machine
    exact Or.inl (.of_alarms (congrArg Machine.state machine) closed (p.alarms_post message))
  | retryDropped =>
    have dropped : Alarms.Turnovers (· ≠ .connection) p.alarms p.dropRetry.alarms :=
      p.turnover_dropRetry nofun
    rw [Phone.dropRetry_eq] at dropped closed ⊢
    exact Or.inl ⟨rfl, rfl, closed, dropped⟩
  | retryScheduled target attempt =>
    have kept : Alarms.Turnovers (· ≠ .connection) p.alarms (p.scheduleRetry target attempt).alarms := by
      rw [Phone.alarms_scheduleRetry]
      exact .single (.kept .retry _ _ nofun rfl)
    rw [Phone.scheduleRetry_eq] at kept closed ⊢
    exact Or.inl ⟨rfl, rfl, closed, kept⟩
  | begun origin destination destinationActive =>
    have kept : Alarms.Turnovers (· ≠ .connection) p.alarms
        ((p.begun origin destination destinationActive).startDeadline p.tracker.nextId).alarms := by
      rw [Phone.alarms_startDeadline]
      exact .single (.kept .deadline _ _ nofun rfl)
    rw [Phone.startDeadline_eq] at kept closed ⊢
    exact Or.inl ⟨rfl, rfl, closed, kept⟩
  | tracked f =>
    have state := congrArg Machine.state (p.track_machine f)
    exact Or.inl (.of_alarms state closed (p.alarms_track f))
  | deadlineDropped =>
    have dropped : Alarms.Turnovers (· ≠ .connection) p.alarms p.dropDeadline.alarms := by
      rw [Phone.alarms_dropDeadline]
      exact .single (.dropped .deadline nofun)
    rw [Phone.dropDeadline_eq] at dropped closed ⊢
    exact Or.inl ⟨rfl, rfl, closed, dropped⟩
  | _ => exact Or.inl (.of_alarms rfl closed rfl)

namespace Phone
open Alarms

variable {p q : Phone} {target : RouteState} {address : Address} {timer : Nat}

theorem state_moveTo (p : Phone) (target : RouteState) : (p.moveTo target).machine.state = target :=
  congrArg Route.state (p.route_moveTo target)

/-- A timer is held for a state that is entered, if it is a connecting one. -/
theorem connectionTimer_moveTo (h : target ≠ p.machine.state) :
    (p.moveTo target).machine.connectionTimer =
      match target with
      | .connecting _ => some p.timers.nextId
      | _ => none := by
  rw [moveTo_eq p h]
  cases target with
  | audioOff => rfl
  | connecting address =>
    change some (p.departed (.connecting address)).timers.nextId = _
    rw [departed_eq]
    exact congrArg some ((Timers.release_nextId _ _).trans (Timers.release_nextId _ _))
  | connected address =>
    exact congrArg Machine.connectionTimer ((p.arrived address).claim_undisturbed address).machine

/-- The timer of a connecting state that is entered is armed. -/
theorem armed_moveTo (sound : p.alarms.Sound) (h : .connecting address ≠ p.machine.state) :
    ∃ due, ⟨p.timers.nextId, due, .connectionTimeout address⟩ ∈
      (p.moveTo (.connecting address)).timers.armed := by
  let q := p.departed (.connecting address)
  have given : q.timers.nextId = p.timers.nextId := by
    change (p.departed (.connecting address)).timers.nextId = _
    rw [departed_eq]
    exact (Timers.release_nextId _ _).trans (Timers.release_nextId _ _)
  have started := q.alarms_startConnectionTimer address (p.departed_connectionTimer _)
  have new := ((p.turnovers_departed (.connecting address)).sound sound).mem_keep .connection
    (q.now + q.config.connectionTimeout.toNanos) (.connectionTimeout address)
  rw [← started] at new
  rw [moveTo_eq p h, ← given]
  exact ⟨_, new⟩

/-- A timer that was held for the state that is left is not held any more. -/
theorem absent_moveTo (sound : p.alarms.Sound) (h : target ≠ p.machine.state)
    (held : p.machine.connectionTimer = some timer) :
    (p.moveTo target).alarms.Absent (· = .connection) timer := by
  have given : p.alarms.Absent (fun _ => False) timer :=
    ⟨sound.fresh .connection timer held, fun _ h => h.elim⟩
  refine ⟨((p.turnovers_moveTo target).absent given).1, ?_⟩
  rintro _ rfl
  change (p.moveTo target).machine.connectionTimer ≠ some timer
  rw [connectionTimer_moveTo h]
  cases target with
  | audioOff | connected => exact nofun
  | connecting => exact fun he => absurd given.1 (Option.some.inj he ▸ Nat.lt_irrefl _)

/-- A connection timer is held in connecting states only, and as long as the thread runs in all of them. -/
structure Timed (p : Phone) : Prop where
  sound : p.alarms.Sound
  connecting : ∀ id, p.machine.connectionTimer = some id →
    ∃ address, p.machine.state = .connecting address
  held : p.closed = false → ∀ address, p.machine.state = .connecting address →
    ∃ id, p.machine.connectionTimer = some id

theorem Timed.moveTo (h : p.Timed) (target : RouteState) : (p.moveTo target).Timed := by
  by_cases same : target = p.machine.state
  · rwa [moveTo_same p same]
  · refine ⟨(p.turnovers_moveTo target).sound h.sound, fun id held => ?_, fun _ address at' => ?_⟩
    · rw [connectionTimer_moveTo same] at held
      rw [state_moveTo]
      cases target with
      | connecting address => exact ⟨address, rfl⟩
      | audioOff | connected => cases held
    · rw [state_moveTo] at at'
      subst at'
      rw [connectionTimer_moveTo same]
      exact ⟨_, rfl⟩

theorem timed_kept : Kept Timed where
  deed {m p q} deed timed := by
    rcases deed.remains with ⟨state, timer, closed, alarms⟩ | ⟨target, rfl⟩
    · refine ⟨alarms.sound timed.sound, ?_, ?_⟩
      · rw [timer, state]
        exact timed.connecting
      · rw [timer, state, closed]
        exact timed.held
    · exact timed.moveTo target
  outside {p} o timed := by
    have undisturbed := p.outside_undisturbed o
    refine ⟨alarms_sound_outside timed.sound o, ?_, ?_⟩
    · rw [undisturbed.machine]
      exact timed.connecting
    · rw [undisturbed.machine, undisturbed.closed]
      exact timed.held
  taken _ timed := ⟨timed.sound, timed.connecting, timed.held⟩
  stopped timed := ⟨alarms_sound_kept.stopped timed.sound, nofun, nofun⟩

theorem timed_start (config : RouteConfig) (attached : List Profile) : (start config attached).Timed :=
  ⟨(watched_start config attached).sound, nofun, nofun⟩

/-- The machine stays in the connecting state for which a timer was armed. -/
structure StaysAt (address : Address) (timer : Nat) (p : Phone) : Prop where
  state : p.machine.state = .connecting address
  held : p.machine.connectionTimer = some timer

/-- A stay goes on, or its timer is gone for good. -/
theorem staysAt_kept (address : Address) (timer : Nat) : Kept fun p =>
    p.alarms.Sound ∧ (p.StaysAt address timer ∨ p.alarms.Absent (· = .connection) timer) where
  deed {m p q} deed h := by
    obtain ⟨sound, stays | gone⟩ := h
    · rcases deed.remains with ⟨state, held, -, alarms⟩ | ⟨target, rfl⟩
      · exact ⟨alarms.sound sound, Or.inl ⟨state.trans stays.state, held.trans stays.held⟩⟩
      · by_cases same : target = p.machine.state
        · rw [moveTo_same p same]
          exact ⟨sound, Or.inl stays⟩
        · exact ⟨(p.turnovers_moveTo target).sound sound, Or.inr (absent_moveTo sound same stays.held)⟩
    · exact ⟨deed.turnovers.sound sound, Or.inr (deed.turnovers.absent gone)⟩
  outside {p} o h := by
    refine ⟨alarms_sound_outside h.1 o, h.2.imp (fun stays => ?_) fun gone => ?_⟩
    · have machine := (p.outside_undisturbed o).machine
      exact ⟨machine ▸ stays.state, machine ▸ stays.held⟩
    · exact (absent_kept _ timer).outside o gone
  taken _ h := ⟨h.1, h.2.imp_left fun stays => ⟨stays.state, stays.held⟩⟩
  stopped {t} h := by
    refine ⟨alarms_sound_kept.stopped h.1, Or.inr ?_⟩
    rcases h with ⟨sound, stays | gone⟩
    · rw [alarms_stop]
      exact ⟨sound.fresh .connection timer stays.held, fun _ _ => nofun⟩
    · exact (absent_kept _ timer).stopped gone

/-- Timers that are held for a connection and were numbered from `n` on are armed for the state that the
machine is in. -/
structure ArmedFrom (n : Nat) (p : Phone) : Prop where
  sound : p.alarms.Sound
  armed : ∀ timer, p.machine.connectionTimer = some timer → n ≤ timer →
    ∃ address due, p.machine.state = .connecting address ∧
      ⟨timer, due, .connectionTimeout address⟩ ∈ p.timers.armed

theorem ArmedFrom.deed {n : Nat} {m : Message} (h : p.ArmedFrom n) (hd : Deed m p q) : q.ArmedFrom n := by
  rcases hd.remains with ⟨state, held, -, alarms⟩ | ⟨target, rfl⟩
  · refine ⟨alarms.sound h.sound, fun timer ht hn => ?_⟩
    rw [held] at ht
    obtain ⟨address, due, connecting, armed⟩ := h.armed timer ht hn
    have spared := alarms.spares h.sound fun hn => hn rfl
    exact ⟨address, due, state.trans connecting, (spared.armed ⟨timer, due, _⟩ ht).mpr armed⟩
  · by_cases same : target = p.machine.state
    · rwa [moveTo_same p same]
    · refine ⟨(p.turnovers_moveTo target).sound h.sound, fun timer ht _ => ?_⟩
      rw [connectionTimer_moveTo same] at ht
      cases target with
      | audioOff | connected => cases ht
      | connecting address =>
        obtain rfl := Option.some.inj ht
        obtain ⟨due, armed⟩ := armed_moveTo h.sound same
        exact ⟨address, due, p.state_moveTo _, armed⟩

end Phone

namespace Thread

variable {t : Thread}

/-- A connection timer that a move comes to hold is armed. -/
theorem Doing.newly_armed (h : t.Doing) (sound : t.phone.alarms.Sound) {m : ThreadMove} {timer : Nat}
    (held : (t.move m).phone.machine.connectionTimer = some timer)
    (new : t.phone.timers.nextId ≤ timer) :
    ∃ address due, (t.move m).phone.machine.state = .connecting address ∧
      ⟨timer, due, .connectionTimeout address⟩ ∈ (t.move m).phone.timers.armed := by
  have old (he : t.phone.machine.connectionTimer = some timer) : False :=
    absurd (sound.fresh .connection timer he) (Nat.not_lt.mpr new)
  have handled {message : Message} {p q : Phone} (touches : Touches message.concerns p q)
      (alarms : p.alarms = t.phone.alarms) : q.ArmedFrom t.phone.timers.nextId := by
    have before : p.ArmedFrom t.phone.timers.nextId := by
      refine ⟨alarms ▸ sound, fun timer' ht hn => ?_⟩
      have held' : t.phone.alarms.held .connection = some timer' := alarms ▸ ht
      exact absurd (sound.fresh .connection timer' held') (Nat.not_lt.mpr hn)
    exact touches.keeps_deeds (fun _ _ deed h => h.deed deed) before
  obtain ⟨-, stretch⟩ := h.stretch m
  generalize (t.move m).phone = q at stretch held ⊢
  cases stretch with
  | still => exact (old held).elim
  | outside o =>
    rw [(t.phone.outside_undisturbed o).machine] at held
    exact (old held).elim
  | stopped => cases held
  | taken idle queued touches => exact (handled touches rfl).armed timer held new
  | resumed touches => exact (handled touches rfl).armed timer held new

/-- A stay of the machine in a connecting state, from the move of a run that enters the state on, with the
timer that is armed by then. -/
structure Stay (t : Thread) (moves : List ThreadMove) (address : Address) where
  earlier : List ThreadMove
  entry : ThreadMove
  later : List ThreadMove
  split : moves = earlier ++ entry :: later
  timer : Nat
  new : (t.run earlier).phone.timers.nextId ≤ timer
  armed : ∃ due, ⟨timer, due, .connectionTimeout address⟩ ∈
    (t.run (earlier ++ [entry])).phone.timers.armed
  stays : ∀ past, past <+: later →
    (t.run (earlier ++ entry :: past)).phone.StaysAt address timer

/-- The thread as it was when the state was entered. -/
def Stay.entered {moves : List ThreadMove} {address : Address} (s : Stay t moves address) : Thread :=
  t.run (s.earlier ++ [s.entry])

theorem Stay.within {moves : List ThreadMove} {address : Address} (s : Stay t moves address) :
    s.earlier ++ [s.entry] <+: moves := ⟨s.later, (List.append_assoc ..).trans s.split.symm⟩

/-- The machine is still there. -/
theorem Stay.current {moves : List ThreadMove} {address : Address} (s : Stay t moves address) :
    (t.run moves).phone.StaysAt address s.timer := by
  have now := s.stays s.later List.prefix_rfl
  rwa [← s.split] at now

/-- The stay in a run that goes on. -/
def Stay.extend {moves : List ThreadMove} {address : Address} (s : Stay t moves address) {m : ThreadMove}
    (h : (t.run (moves ++ [m])).phone.StaysAt address s.timer) : Stay t (moves ++ [m]) address :=
  have split : moves ++ [m] = s.earlier ++ s.entry :: (s.later ++ [m]) :=
    (congrArg (· ++ [m]) s.split).trans (List.append_assoc ..)
  { s with
    later := s.later ++ [m]
    split
    stays := by
      intro past way
      rcases List.prefix_concat_iff.mp way with rfl | way
      · rwa [← split]
      · exact s.stays past way }

theorem closed_kept : Kept fun p => p.closed = true where
  deed deed closed := (Phone.inbox_of_deed deed).2.trans closed
  outside {p} o closed := (p.outside_undisturbed o).closed.trans closed
  taken _ closed := closed
  stopped _ := rfl

/-- As long as the thread runs, each connecting state that the machine is in was entered at some time. -/
theorem stay_of_connecting (config : RouteConfig) (attached : List Profile) {moves : List ThreadMove}
    {address : Address} (opened : ((fresh config attached).run moves).phone.closed = false)
    (connecting : ((fresh config attached).run moves).phone.machine.state = .connecting address) :
    Nonempty (Stay (fresh config attached) moves address) := by
  let t := fresh config attached
  induction moves using List.reverseRecOn generalizing address with
  | nil => cases connecting
  | append_singleton moves m ih =>
    let u := t.run moves
    obtain ⟨underway, timed⟩ : u.Underway ∧ u.phone.Timed :=
      run_keeps_phone Phone.timed_kept (underway_fresh config attached) (Phone.timed_start config attached) moves
    rw [run_concat] at opened connecting
    obtain ⟨timer, held⟩ := (move_keeps Phone.timed_kept underway timed m).2.held opened address connecting
    by_cases new : u.phone.timers.nextId ≤ timer
    · -- The timer is new, so this is the move that enters the state.
      obtain ⟨address', due, state, armed⟩ :=
        ((doing_fresh config attached).run moves).newly_armed timed.sound held new
      obtain rfl := RouteState.connecting.inj (connecting.symm.trans state)
      refine ⟨⟨moves, m, [], rfl, timer, new, ⟨due, by rwa [run_concat]⟩, fun past way => ?_⟩⟩
      rw [List.prefix_nil.mp way, run_concat]
      exact ⟨connecting, held⟩
    · have before : u.phone.machine.connectionTimer = some timer := by
        by_contra other
        have gone : u.phone.alarms.Absent (· = .connection) timer :=
          ⟨Nat.not_le.mp new, fun s hs => hs ▸ other⟩
        exact (move_keeps (Phone.absent_kept _ timer) underway gone m).2.2 .connection rfl held
      obtain ⟨address', state⟩ := timed.connecting timer before
      have stays : (u.move m).phone.StaysAt address' timer :=
        ((move_keeps (Phone.staysAt_kept address' timer) underway ⟨timed.sound, Or.inl ⟨state, before⟩⟩
          m).2.2).resolve_right fun gone => gone.2 .connection rfl held
      obtain rfl := RouteState.connecting.inj (connecting.symm.trans stays.state)
      have opened' : u.phone.closed = false := by
        refine Bool.eq_false_iff.mpr fun closed => ?_
        exact absurd ((move_keeps closed_kept underway closed m).2.symm.trans opened) nofun
      obtain ⟨stay⟩ := ih opened' state
      have same : stay.timer = timer := Option.some.inj (stay.current.held.symm.trans before)
      refine ⟨stay.extend ?_⟩
      rwa [run_concat, same]

end Thread
end CallAudio

import CallAudio.Proofs.ConnectionTimer
import CallAudio.Proofs.Sent

/-! The deadline of a connection. As long as the machine is connecting it holds the timer of that
connection, which is armed or whose message is still to be handled, so it cannot stay connecting for
good. -/
namespace CallAudio

variable {α : Type} {P Q : Phone → Prop}

namespace Step

variable {s : Step α} {post post' : α → Phone → Prop}

theorem upholds_trivial (s : Step α) : s.Upholds (fun _ => True) fun _ _ => True := by
  induction s with
  | done => trivial
  | wait q resume ih => exact ⟨trivial, fun attached r _ => ih attached r⟩

/-- What holds at the end whatever goes on during the waits can be added to what is upheld. -/
theorem Upholds.and (h : s.Upholds P post) (h' : s.Upholds (fun _ => True) post') :
    s.Upholds P fun value q => post value q ∧ post' value q := by
  induction s with
  | done value q => exact ⟨h, h'⟩
  | wait q resume ih =>
    refine ⟨h.1, ?_⟩
    intro attached r hr
    exact ih attached r (h.2 attached r hr) (h'.2 attached r trivial)

end Step

namespace Work

/-- As long as the work waits `P` holds, and it upholds that from wherever things outside lead; `Q` holds
once it is finished. -/
def Upholds (P Q : Phone → Prop) (p : Phone) : Work Unit → Prop
  | .finished _ => Q p
  | .waiting _ resume => P p ∧ ∀ attached r, P r → (resume attached r).Upholds P fun _ q => Q q

variable {p q : Phone} {w w' : Work Unit}

theorem upholds_ofStep {s : Step Unit} (h : s.Upholds P fun _ q => Q q) :
    (ofStep s).1.Upholds P Q (ofStep s).2 := by
  cases s with
  | done value q => exact h
  | wait q resume => exact h

theorem Upholds.resume (h : w.Upholds P Q p) (hr : w.resume? p = some (w', q)) :
    w'.Upholds P Q q := by
  obtain ⟨deadline, resume, attached, rfl, hw⟩ := resume?_cases hr
  obtain ⟨rfl, rfl⟩ := Prod.mk.inj hw
  exact upholds_ofStep (h.2 attached p h.1)

theorem Upholds.outside (h : w.Upholds P Q p) (hP : P p → P q) (hQ : Q p → Q q) : w.Upholds P Q q := by
  cases w with
  | finished value => exact hQ h
  | waiting deadline resume => exact ⟨hP h.1, h.2⟩

end Work

namespace Phone
open Alarms

variable {p q : Phone} {m : Message} {handling : Option Message}

/-- The timer that is held for a connection is armed, or its message is queued or being handled. -/
structure Attended (handling : Option Message) (p : Phone) : Prop where
  timed : p.Timed
  opened : p.closed = false
  live : ∀ address timer, p.machine.state = .connecting address →
    p.machine.connectionTimer = some timer →
      (∀ t ∈ p.timers.armed, t.id = timer → t.value = .connectionTimeout address) ∧
      ((∃ t ∈ p.timers.armed, t.id = timer) ∨ .connectionTimeout address ∈ p.inbox ∨
        handling = some (.connectionTimeout address))

theorem attended_start (config : RouteConfig) (attached : List Profile) :
    (start config attached).Attended none := ⟨timed_start config attached, rfl, nofun⟩

/-- The timer of a connecting state that is entered is a new one, and it is armed. -/
theorem Attended.moveTo (h : p.Attended handling) (target : RouteState) :
    (p.moveTo target).Attended handling := by
  by_cases same : target = p.machine.state
  · rwa [moveTo_same p same]
  · have timed : (p.moveTo target).Timed := h.timed.moveTo target
    refine ⟨timed, (p.aside_moveTo target).closed.trans h.opened, ?_⟩
    intro address timer state held
    rw [state_moveTo] at state
    subst state
    rw [connectionTimer_moveTo same] at held
    obtain rfl := Option.some.inj held
    obtain ⟨due, armed⟩ := armed_moveTo h.timed.sound same
    refine ⟨fun t mem number => ?_, Or.inl ⟨_, armed, rfl⟩⟩
    obtain rfl := List.inj_on_of_nodup_map timed.sound.nodup mem armed number
    rfl

theorem Attended.deed (h : p.Attended handling) (hd : Deed m p q) : q.Attended handling := by
  have timed : q.Timed := timed_kept.deed hd h.timed
  have inbox : p.inbox ⊆ q.inbox := (inbox_of_deed hd).1.subset
  rcases hd.remains with ⟨state, timer, closed, alarms⟩ | ⟨target, rfl⟩
  · refine ⟨timed, closed.trans h.opened, ?_⟩
    intro address id at' held
    rw [state] at at'
    rw [timer] at held
    have spared := alarms.spares h.timed.sound fun hn => hn rfl
    have armed (t : Timer Message) (number : t.id = id) :
        t ∈ q.timers.armed ↔ t ∈ p.timers.armed := spared.armed t (number ▸ held)
    obtain ⟨carried, live⟩ := h.live address id at' held
    refine ⟨fun t mem number => carried t ((armed t number).mp mem) number, ?_⟩
    rcases live with ⟨t, mem, number⟩ | queued | taken
    · exact Or.inl ⟨t, (armed t number).mpr mem, number⟩
    · exact Or.inr (Or.inl (inbox queued))
    · exact Or.inr (Or.inr taken)
  · exact h.moveTo target

theorem Attended.outside (h : p.Attended handling) (o : Outside) : (p.outside o).Attended handling := by
  have undisturbed := p.outside_undisturbed o
  refine ⟨timed_kept.outside o h.timed, undisturbed.closed.trans h.opened, ?_⟩
  rw [undisturbed.machine]
  intro address timer state held
  obtain ⟨carried, live⟩ := h.live address timer state held
  refine ⟨fun t mem => carried t (armed_outside o mem), ?_⟩
  rcases live with ⟨t, mem, number⟩ | queued | taken
  · rcases due_outside h.timed.sound h.opened mem o with armed | posted
    · exact Or.inl ⟨t, armed, number⟩
    · rw [carried t mem number] at posted
      exact Or.inr (Or.inl posted)
  · exact Or.inr (Or.inl (undisturbed.inbox.subset queued))
  · exact Or.inr (Or.inr taken)

/-- A message that is taken out of the queue is being handled from then on. -/
theorem Attended.taken (h : p.Attended none) {rest : List Message}
    (queued : ∀ x ∈ p.inbox, x = m ∨ x ∈ rest) :
    ({ p with inbox := rest } : Phone).Attended (some m) := by
  refine ⟨⟨h.timed.sound, h.timed.connecting, h.timed.held⟩, h.opened, ?_⟩
  intro address timer state held
  obtain ⟨carried, live⟩ := h.live address timer state held
  refine ⟨carried, ?_⟩
  rcases live with armed | mem | taken
  · exact Or.inl armed
  · rcases queued _ mem with rfl | mem
    · exact Or.inr (Or.inr rfl)
    · exact Or.inr (Or.inl mem)
  · cases taken

/-- Once a message is handled nothing is left of it if it was not the timeout of the present connection. -/
theorem Attended.settled (h : p.Attended (some m))
    (other : ∀ address, m = .connectionTimeout address → p.machine.state ≠ .connecting address) :
    p.Attended none := by
  refine ⟨h.timed, h.opened, ?_⟩
  intro address timer state held
  obtain ⟨carried, live⟩ := h.live address timer state held
  refine ⟨carried, ?_⟩
  rcases live with armed | mem | taken
  · exact Or.inl armed
  · exact Or.inr (Or.inl mem)
  · exact absurd state (other address (Option.some.inj taken))

theorem moveToActualState_leaves (p : Phone) : (moveToActualState p).Upholds (fun _ => True)
    fun _ q => ∀ address, q.machine.state ≠ .connecting address := by
  apply (Step.upholds_trivial (carryingAudio p)).bind
  intro found q _
  cases found with
  | none =>
    change ∀ address, (q.moveTo .audioOff).machine.state ≠ .connecting address
    rw [state_moveTo]
    exact nofun
  | some actual =>
    change ∀ address, (q.moveTo (.connected actual)).machine.state ≠ .connecting address
    rw [state_moveTo]
    exact nofun

/-- The timeout of a connection ends it, whatever goes on while the services are asked where audio is. -/
theorem onConnectionTimeout_leaves (p : Phone) (address : Address) :
    (onConnectionTimeout address p).Upholds (fun _ => True) fun _ q =>
      q.machine.state ≠ .connecting address ∧
        (p.machine.state = .connecting address → ∀ other, q.machine.state ≠ .connecting other) := by
  change ((if p.machine.state = .connecting address then do
    Job.update (note (.timedOut address))
    moveToActualState
    else pure () : Job Unit) p).Upholds _ _
  by_cases h : p.machine.state = .connecting address
  · rw [if_pos h]
    exact (moveToActualState_leaves _).mono fun _ q left => ⟨left address, fun _ => left⟩
  · rw [if_neg h]
    exact ⟨h, fun connecting => absurd connecting h⟩

theorem handle_connectionTimeout_leaves (p : Phone) (address : Address) :
    (handle (.connectionTimeout address) p).Upholds (fun _ => True) fun _ q =>
      q.machine.state ≠ .connecting address ∧
        (p.machine.state = .connecting address → ∀ other, q.machine.state ≠ .connecting other) := by
  let noted := p.record (.handled (.connectionTimeout address))
  rw [handle_eq]
  apply (noted.onConnectionTimeout_leaves address).bind
  intro _ q left
  have route : (q.accounted (.connectionTimeout address) p.machine.state).route = q.route :=
    (route_clearStaleDeadline _).trans (route_onStateChanged _ _)
  have state : (q.accounted (.connectionTimeout address) p.machine.state).machine.state =
      q.machine.state := congrArg Route.state route
  change (q.accounted (.connectionTimeout address) p.machine.state).machine.state ≠ _ ∧ _
  rw [state]
  exact left

theorem Attended.touch (h : p.Attended handling) (touch : Touch m.concerns p q) : q.Attended handling :=
  (Touches.single touch).keeps_deeds (fun _ _ deed h => h.deed deed) h

/-- A message is attended to up to its end, as a timeout ends the connection it is for. -/
theorem attended_upholds {s : Step Unit} {P : Phone → Prop} (does : s.Does m.concerns p)
    (attended : ∀ q, P q → q.Attended (some m)) (kept : ∀ p q, Touch m.concerns p q → P p → P q)
    (hp : P p)
    (leaves : ∀ address, m = .connectionTimeout address →
      s.Upholds (fun _ => True) fun _ q => q.machine.state ≠ .connecting address) :
    s.Upholds P fun _ q => q.Attended none := by
  have upheld : s.Upholds P fun _ q => P q := does.upholds kept hp
  by_cases timeout : ∃ address, m = .connectionTimeout address
  · obtain ⟨address, rfl⟩ := timeout
    apply (upheld.and (leaves address rfl)).mono
    intro _ q hq
    apply (attended q hq.1).settled
    rintro _ ⟨⟩
    exact hq.2
  · apply upheld.mono
    intro _ q hq
    exact (attended q hq).settled fun address he => absurd ⟨address, he⟩ timeout

/-- The armed timers of connections. -/
def connectionTimers (p : Phone) : List (Timer Message) :=
  p.timers.armed.filter fun t => t.value.slot? = some .connection

end Phone

/-- A connection timer is held in the connecting states and in no others. The one that is held is armed for
the present connection, and no other is armed; or none is armed, and the timeout of the present connection is
queued or being handled. -/
structure ConnectionTimed (handling : Option Message) (p : Phone) : Prop where
  held : (∃ timer, p.machine.connectionTimer = some timer) ↔
    ∃ address, p.machine.state = .connecting address
  live : ∀ address timer, p.machine.state = .connecting address →
    p.machine.connectionTimer = some timer →
      (∃ due, p.connectionTimers = [⟨timer, due, .connectionTimeout address⟩]) ∨
        p.connectionTimers = [] ∧
          (.connectionTimeout address ∈ p.inbox ∨ handling = some (.connectionTimeout address))
  unheld : p.machine.connectionTimer = none → p.connectionTimers = []

theorem Phone.Attended.connectionTimed {p : Phone} {handling : Option Message}
    (h : p.Attended handling) : ConnectionTimed handling p := by
  have cases : p.connectionTimers = [] ∨ ∃ t ∈ p.timers.armed,
      p.machine.connectionTimer = some t.id ∧ p.connectionTimers = [t] :=
    h.timed.sound.armed_cases .connection
  refine ⟨⟨fun ⟨timer, held⟩ => h.timed.connecting timer held,
    fun ⟨address, state⟩ => h.timed.held h.opened address state⟩, ?_, ?_⟩
  · intro address timer state held
    obtain ⟨carried, live⟩ := h.live address timer state held
    rcases cases with none | ⟨t, mem, owned, one⟩
    · -- The timer that is held is not armed, so it has fired.
      refine Or.inr ⟨none, live.resolve_left fun ⟨t, mem, number⟩ => ?_⟩
      have value : t.value = .connectionTimeout address := carried t mem number
      have listed : t ∈ p.connectionTimers :=
        List.mem_filter.mpr ⟨mem, decide_eq_true (congrArg Message.slot? value)⟩
      rw [none] at listed
      cases listed
    · obtain rfl : timer = t.id := Option.some.inj (held.symm.trans owned)
      have value : t.value = .connectionTimeout address := carried t mem rfl
      refine Or.inl ⟨t.due, ?_⟩
      rw [← value]
      exact one
  · intro unheld
    rcases cases with none | ⟨t, -, owned, -⟩
    · exact none
    · exact absurd (unheld.symm.trans owned) nofun

/-- The message is being handled; it is the last one whose handling has begun. -/
def Phone.Attending (m : Message) (p : Phone) : Prop :=
  p.Attended (some m) ∧ (handledMessages p.journal).getLast? = some m

namespace Thread

variable {t u : Thread}

/-- The message whose handling has begun and waits for the headset service. -/
def inProgress (t : Thread) : Option Message :=
  match t.loop with
  | .running (.waiting _ _) => t.handled.getLast?
  | _ => none

/-- The thread has not ended, and the connection timer is attended to. -/
def Attends (t : Thread) : Prop :=
  match t.loop with
  | .unstarted => t.phone.Attended none
  | .running work => ∃ m, work.Upholds (Phone.Attending m) (Phone.Attended none) t.phone
  | .gone => False

/-- Nothing is being handled as long as the thread is idle. -/
theorem Attends.attended (h : t.Attends) (idle : t.isIdle = true) : t.phone.Attended none := by
  obtain ⟨phone, loop⟩ := t
  cases loop with
  | unstarted | gone => cases idle
  | running work =>
    obtain ⟨m, upholds⟩ := h
    cases work with
    | finished => exact upholds
    | waiting => cases idle

theorem Attends.handleNext (h : t.Attends) (hu : t.handleNext? = some u) : u.Attends := by
  obtain ⟨idle, message, rest, queued, rfl⟩ := handleNext?_cases hu
  let p : Phone := { t.phone with inbox := rest }
  let noted := p.record (.handled message)
  have taken : p.Attended (some message) :=
    (h.attended idle).taken fun x mem => List.mem_cons.mp (queued ▸ mem)
  have begun : noted.Attended (some message) :=
    ⟨⟨taken.timed.sound, taken.timed.connecting, taken.timed.held⟩, taken.opened, taken.live⟩
  have last : (handledMessages noted.journal).getLast? = some message := by
    change (handledMessages (p.journal ++ [⟨.handled message, p.machine.state⟩])).getLast? = _
    rw [handledMessages_snoc]
    exact List.getLast?_concat
  have kept (q r : Phone) (touch : Touch message.concerns q r) (hq : q.Attending message) :
      r.Attending message := by
    refine ⟨hq.1.touch touch, ?_⟩
    rw [(Touches.single touch).reports.handled]
    exact hq.2
  refine ⟨message, Work.upholds_ofStep ?_⟩
  apply Phone.attended_upholds (p.handle_does message) (fun _ hq => hq.1) kept ⟨begun, last⟩
  rintro address rfl
  exact (p.handle_connectionTimeout_leaves address).mono fun _ _ left => left.1

theorem Attends.resume (h : t.Attends) (hu : t.resume? = some u) : u.Attends := by
  obtain ⟨deadline, resume, attached, hl, rfl⟩ := resume?_cases hu
  unfold Attends at h
  rw [hl] at h
  obtain ⟨m, attending, upholds⟩ := h
  exact ⟨m, Work.upholds_ofStep (upholds attached t.phone attending)⟩

theorem Attends.outside (h : t.Attends) (o : Outside) :
    Attends { t with phone := t.phone.outside o } := by
  obtain ⟨phone, loop⟩ := t
  cases loop with
  | unstarted => exact Phone.Attended.outside h o
  | gone => exact h
  | running work =>
    obtain ⟨m, upholds⟩ := h
    have attending (h : phone.Attending m) : (phone.outside o).Attending m := by
      refine ⟨h.1.outside o, ?_⟩
      rw [(phone.outside_undisturbed o).journal]
      exact h.2
    exact ⟨m, upholds.outside attending fun h => h.outside o⟩

theorem Attends.move (h : t.Attends) {m : ThreadMove} (running : m ≠ .stop) : (t.move m).Attends := by
  cases m with
  | start =>
    obtain ⟨phone, loop⟩ := t
    cases loop with
    | unstarted => exact ⟨.disconnect, h⟩
    | running | gone => exact h
  | stop => exact absurd rfl running
  | handle =>
    change (t.handleNext?.getD t).Attends
    cases hn : t.handleNext? with
    | none => exact h
    | some u => exact h.handleNext hn
  | resume =>
    change (t.resume?.getD t).Attends
    cases hn : t.resume? with
    | none => exact h
    | some u => exact h.resume hn
  | outside o => exact h.outside o

theorem Attends.run (h : t.Attends) {moves : List ThreadMove} (running : .stop ∉ moves) :
    (t.run moves).Attends := by
  induction moves generalizing t with
  | nil => exact h
  | cons m rest ih =>
    obtain ⟨first, others⟩ := List.ne_and_not_mem_of_not_mem_cons running
    exact ih (h.move first.symm) others

theorem Attends.connectionTimed (h : t.Attends) : ConnectionTimed t.inProgress t.phone := by
  obtain ⟨phone, loop⟩ := t
  cases loop with
  | gone => exact h.elim
  | unstarted => exact Phone.Attended.connectionTimed h
  | running work =>
    obtain ⟨m, upholds⟩ := h
    cases work with
    | finished => exact Phone.Attended.connectionTimed upholds
    | waiting deadline resume =>
      obtain ⟨⟨attended, last⟩, -⟩ := upholds
      have inProgress : inProgress ⟨phone, .running (.waiting deadline resume)⟩ = some m := last
      rw [inProgress]
      exact attended.connectionTimed

end Thread

/-- The message that a call of the machine answers. -/
def MachineCall.message : MachineCall → Message
  | deviceAdded device profile => .deviceAdded device profile
  | deviceLost address profile => .deviceLost address profile
  | activeDeviceChanged profile address => .activeDeviceChanged profile address
  | connect requested _ => .connect requested
  | retryConnect address attempt => .retryConnect address attempt
  | disconnect => .disconnect
  | connectionTimeout address => .connectionTimeout address
  | audioOn address => .audioOn address
  | audioLost address => .audioLost address

theorem MachineCall.job_does (c : MachineCall) : c.job.Does c.message.concerns := by
  cases c with
  | deviceAdded device profile => exact Job.does_touch fun p => .added device profile (by simp [message])
  | deviceLost address profile => exact Phone.act_does (.deviceLost address profile)
  | activeDeviceChanged profile address =>
    exact Job.does_touch fun p => .activated profile address (by simp [message])
  | connect requested attempt =>
    apply Job.Does.bind
    · apply Phone.connect_does <;> simp [message]
    · exact fun _ => Job.does_pure ()
  | retryConnect address attempt =>
    apply Job.Does.bind
    · apply Phone.retryConnect_does <;> simp [message]
    · exact fun _ => Job.does_pure ()
  | disconnect => exact Phone.act_does .disconnect
  | connectionTimeout address => exact Phone.act_does (.connectionTimeout address)
  | audioOn address => exact Phone.act_does (.audioOn address)
  | audioLost address => exact Phone.act_does (.audioLost address)

theorem Session.resume_upholds {s : Session} (h : s.work.Upholds P Q s.phone) :
    (s.move .resume).work.Upholds P Q (s.move .resume).phone := by
  let resumed := (s.work.resume? s.phone).map ofWork
  change (resumed.getD s).work.Upholds P Q (resumed.getD s).phone
  cases hr : s.work.resume? s.phone with
  | none =>
    have still : resumed = none := congrArg (Option.map ofWork) hr
    rwa [still]
  | some w =>
    have goes : resumed = some (ofWork w) := congrArg (Option.map ofWork) hr
    rw [goes]
    exact h.resume hr

/-- A machine whose messages are handled in any order, and the one that is being handled. -/
structure Driven where
  session : Session
  handling : Option Message

namespace Driven

/-- Once the work is finished nothing is being handled. -/
def going (message : Option Message) (s : Session) : Driven :=
  ⟨s, match s.work with
    | .finished _ => none
    | .waiting _ _ => message⟩

/-- A call takes a message like its own from wherever that stands in the queue. -/
def move (d : Driven) (m : SessionMove) : Driven :=
  let p := d.session.phone
  match m, d.session.work with
  | .call c, .finished _ =>
    let taken := { d.session with phone := { p with inbox := p.inbox.erase c.message } }
    going (some c.message) (taken.move m)
  | _, _ => going d.handling (d.session.move m)

def fresh (config : RouteConfig) (attached : List Profile) : Driven :=
  ⟨.fresh config attached, none⟩

def run (d : Driven) (moves : List SessionMove) : Driven := moves.foldl move d

def Attends (d : Driven) : Prop :=
  match d.session.work with
  | .finished _ => d.handling = none ∧ d.session.phone.Attended none
  | .waiting _ resume => ∃ m, d.handling = some m ∧ d.session.phone.Attended (some m) ∧
      ∀ attached r, r.Attended (some m) →
        (resume attached r).Upholds (Phone.Attended (some m)) fun _ q => q.Attended none

variable {d : Driven}

theorem attends_going {m : Message} {s : Session}
    (h : s.work.Upholds (Phone.Attended (some m)) (Phone.Attended none) s.phone) :
    (going (some m) s).Attends := by
  obtain ⟨phone, work⟩ := s
  cases work with
  | finished => exact ⟨rfl, h⟩
  | waiting => exact ⟨m, rfl, h⟩

theorem Attends.move (h : d.Attends) (m : SessionMove) : (d.move m).Attends := by
  obtain ⟨⟨phone, work⟩, handling⟩ := d
  cases work with
  | finished value =>
    obtain ⟨-, attended⟩ := h
    cases m with
    | call c =>
      let p : Phone := { phone with inbox := phone.inbox.erase c.message }
      have taken : p.Attended (some c.message) := by
        apply Phone.Attended.taken attended
        intro x mem
        by_cases same : x = c.message
        · exact Or.inl same
        · exact Or.inr ((List.mem_erase_of_ne same).mpr mem)
      apply attends_going
      apply Work.upholds_ofStep
      apply Phone.attended_upholds (c.job_does p) (fun _ hq => hq) (fun _ _ touch h => h.touch touch) taken
      intro address timeout
      cases c with
      | connectionTimeout other =>
        obtain rfl := Message.connectionTimeout.inj timeout
        exact (p.onConnectionTimeout_leaves other).mono fun _ _ left => left.1
      | _ => cases timeout
    | resume => exact ⟨rfl, attended⟩
    | outside o => exact ⟨rfl, Phone.Attended.outside attended o⟩
  | waiting deadline resume =>
    obtain ⟨message, rfl, upholds⟩ := h
    cases m with
    | call c => exact ⟨message, rfl, upholds⟩
    | resume =>
      have upheld : (Work.waiting deadline resume).Upholds (Phone.Attended (some message))
          (Phone.Attended none) phone := upholds
      exact attends_going (Session.resume_upholds upheld)
    | outside o => exact ⟨message, rfl, Phone.Attended.outside upholds.1 o, upholds.2⟩

theorem attends_run (config : RouteConfig) (attached : List Profile) (moves : List SessionMove) :
    ((fresh config attached).run moves).Attends := by
  induction moves using List.reverseRecOn with
  | nil => exact ⟨rfl, Phone.attended_start config attached⟩
  | append_singleton past m ih =>
    rw [run, List.foldl_append]
    exact ih.move m

theorem Attends.connectionTimed (h : d.Attends) : ConnectionTimed d.handling d.session.phone := by
  obtain ⟨⟨phone, work⟩, handling⟩ := d
  cases work with
  | finished =>
    obtain ⟨rfl, attended⟩ := h
    exact Phone.Attended.connectionTimed attended
  | waiting =>
    obtain ⟨m, rfl, attended, -⟩ := h
    exact Phone.Attended.connectionTimed attended

end Driven

/-- A machine is connecting exactly as long as it holds a connection timer, which is that of the present
connection and is armed, or its message is still to be handled; so it is never without a deadline, and the
deadline ends the connection. This holds of the route thread between any two moves, also while a message
waits, and of a machine whose messages are handled in any order. -/
theorem connecting_has_deadline (config : RouteConfig) (attached : List Profile) :
    (∀ moves : List ThreadMove, .stop ∉ moves →
      let t := (Thread.fresh config attached).run moves
      ConnectionTimed t.inProgress t.phone) ∧
    (∀ moves : List SessionMove,
      let d := (Driven.fresh config attached).run moves
      ConnectionTimed d.handling d.session.phone) ∧
    ∀ (p : Phone) (address : Address), p.machine.state = .connecting address → ∀ pauses other,
      (p.handled (.connectionTimeout address) pauses).machine.state ≠ .connecting other ∧
        ((Phone.onConnectionTimeout address p).finish pauses).phone.machine.state ≠ .connecting other := by
  refine ⟨fun moves running => ?_, fun moves => ?_, fun p address connecting pauses other => ?_⟩
  · have begun : (Thread.fresh config attached).Attends := Phone.attended_start config attached
    exact (begun.run running).connectionTimed
  · exact (Driven.attends_run config attached moves).connectionTimed
  · have kept (p : Phone) (o : Outside) (_ : True) : True := trivial
    have handled := (p.handle_connectionTimeout_leaves address).finish kept pauses
    have ended := (p.onConnectionTimeout_leaves address).finish kept pauses
    exact ⟨handled.2 connecting other, ended.2 connecting other⟩

/-- A connection that is not answered in time, whose timeout waits for the headset service that was
detached meanwhile. -/
theorem connecting_has_deadline_of_waiting :
    let headset : Address := ⟨10, 0, 0, 0, 0, 1⟩
    let past : List ThreadMove := [.start,
      .outside (.post (.deviceAdded ⟨headset, .audioSink⟩ .classicHeadset)), .handle,
      .outside (.post (.activeDeviceChanged .classicHeadset (some headset))), .handle,
      .outside (.post (.connect (some headset))), .handle,
      .outside (.pass 6000000000), .outside (.fire 0), .outside (.registry (.detach .classicHeadset))]
    let t := (Thread.fresh {} [.classicHeadset]).run past
    let u := (Thread.fresh {} [.classicHeadset]).run (past ++ [.handle])
    .stop ∉ past ++ [.handle] ∧ t.inbox = [.connectionTimeout headset] ∧ t.inProgress = none ∧
      t.phone.machine.state = .connecting headset ∧ u.phone.machine.state = .connecting headset ∧
      u.inbox = [] ∧ u.inProgress = some (.connectionTimeout headset) ∧
      ConnectionTimed u.inProgress u.phone ∧ ∀ pauses,
        (t.phone.handled (.connectionTimeout headset) pauses).machine.state ≠ .connecting headset := by
  intro headset past t u
  have running : .stop ∉ past ++ [.handle] := by simp [past]
  have connecting : t.phone.machine.state = .connecting headset := by decide
  obtain ⟨timed, -, ends⟩ := connecting_has_deadline {} [.classicHeadset]
  refine ⟨running, by decide, by decide, connecting, by decide, by decide, by decide, timed _ running, ?_⟩
  intro pauses
  exact (ends t.phone headset connecting pauses headset).1

end CallAudio

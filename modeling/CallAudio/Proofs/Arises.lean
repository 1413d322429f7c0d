import CallAudio.Proofs.CancelledRetry
import CallAudio.Proofs.ConnectionDeadline
import CallAudio.Proofs.Connections

/-! The phones that can arise, with the route thread running or with the state machine used alone, also in
the middle of a message. On all of them the timers are as they should be and messages still arrive. -/
namespace CallAudio

/-- Phones that arise before the thread has ended. What a message does to the phone up to some moment is
part of its course. -/
inductive Phone.Arises (config : RouteConfig) (attached : List Profile) : Phone → Prop
  | thread (moves : List ThreadMove) (running : .stop ∉ moves) :
      Arises config attached ((Thread.fresh config attached).run moves).phone
  | session (moves : List SessionMove) :
      Arises config attached ((Session.fresh config attached).run moves).phone
  | within {p q : Phone} {message : Message} {rest : List Message} (h : Arises config attached p)
      (queued : p.inbox = message :: rest)
      (course : Course (fun _ => True) message
        (({ p with inbox := rest } : Phone).record (.handled message)) q) : Arises config attached q

variable {P : Phone → Prop}

namespace Session

/-- What no deed and nothing outside destroys holds all along, also while a call waits. -/
theorem run_keeps_phone (deed : ∀ {m p q}, Deed m p q → P p → P q)
    (outside : ∀ {p} o, P p → P (Phone.outside p o)) {config : RouteConfig} {attached : List Profile}
    (start : P (.start config attached)) (moves : List SessionMove) :
    P ((fresh config attached).run moves).phone := by
  have begun : (fresh config attached).work.Upholds P P (fresh config attached).phone := start
  have upheld : ((fresh config attached).run moves).work.Upholds P P
      ((fresh config attached).run moves).phone := by
    refine run_keeps (P := fun s => s.work.Upholds P P s.phone) (fun s m upheld => ?_) begun moves
    obtain ⟨phone, work⟩ := s
    cases m with
    | call c =>
      cases work with
      | finished =>
        apply Work.upholds_ofStep
        refine (c.job_does phone).upholds (fun _ _ touch => ?_) upheld
        exact (Touches.single touch).keeps_deeds fun _ _ deed' => deed deed'
      | waiting => exact upheld
    | resume => exact resume_upholds upheld
    | outside o => exact upheld.outside (outside o) (outside o)
  generalize (fresh config attached).run moves = s at upheld ⊢
  obtain ⟨phone, work⟩ := s
  cases work with
  | finished => exact upheld
  | waiting => exact upheld.1

end Session

namespace Phone

variable {p q : Phone} {config : RouteConfig} {attached : List Profile}

/-- The services that are attached at first have no part in the devices. -/
theorem devices_start (config : RouteConfig) (attached : List Profile) :
    (start config attached).registry.devices = .uniform [] := by
  have attach (profiles : List Profile) (r : Registry) :
      (profiles.foldl Registry.attach r).devices = r.devices := by
    induction profiles generalizing r with
    | nil => rfl
    | cons profile rest ih => exact ih (r.attach profile)
  exact attach attached {}

theorem once_kept : Kept fun p => p.registry.Once where
  deed deed once := by
    rcases deed.registry with ⟨communication, h⟩ | ⟨device, profile, -, h⟩ | ⟨address, profile, -, h⟩ |
      ⟨profile, address, -, h⟩
    · rw [h]
      exact once.of_devices rfl
    · rw [h]
      exact once.connect _ device profile
    · rw [h]
      exact once.disconnect address profile
    · rw [h]
      exact once.of_devices rfl
  outside {p} o once := by
    have meddling := p.outside_meddling o
    change (p.outside o).services.2.Once
    generalize (p.outside o).services = s at meddling ⊢
    cases meddling with
    | none | bound | activated | communication | platform => exact once.of_devices rfl
    | connected profile device => exact once.connect _ device profile
    | disconnected address profile => exact once.disconnect address profile
    | made address =>
      obtain ⟨platform, communication, h⟩ := p.makeCommunicationDevice_eq address
      rw [h]
      exact once.of_devices rfl
  taken _ once := once
  stopped once := once

/-- What is always kept holds of all phones that arise. -/
theorem Arises.keeps (hP : Kept P) (start : P (.start config attached)) (h : p.Arises config attached) :
    P p := by
  induction h with
  | thread moves =>
    exact (Thread.run_keeps_phone hP (Thread.underway_fresh config attached) start moves).2
  | session moves => exact Session.run_keeps_phone hP.deed hP.outside start moves
  | within _ queued course ih => exact hP.course course (hP.taken queued ih)

theorem Arises.sound (h : p.Arises config attached) : p.alarms.Sound :=
  h.keeps alarms_sound_kept (watched_start config attached).sound

theorem Arises.once (h : p.Arises config attached) : p.registry.Once := by
  refine h.keeps once_kept fun profile => ?_
  rw [devices_start, PerProfile.get_uniform]
  exact List.nodup_nil

theorem opened_of_deed {m : Message} (deed : Deed m p q) (opened : p.closed = false) : q.closed = false :=
  (inbox_of_deed deed).2.trans opened

theorem opened_outside (o : Outside) (opened : p.closed = false) : (p.outside o).closed = false :=
  (p.outside_undisturbed o).closed.trans opened

/-- Only the end of the thread closes the phone. -/
theorem Arises.opened (h : p.Arises config attached) : p.closed = false := by
  have start : (start config attached).closed = false := rfl
  induction h with
  | thread moves running =>
    have begun : (Thread.fresh config attached).Attends := attended_start config attached
    have attends := begun.run running
    generalize (Thread.fresh config attached).run moves = t at attends ⊢
    obtain ⟨phone, loop⟩ := t
    cases loop with
    | unstarted => exact Attended.opened attends
    | gone => exact attends.elim
    | running work =>
      obtain ⟨m, upholds⟩ := attends
      cases work with
      | finished => exact Attended.opened upholds
      | waiting => exact upholds.1.1.opened
  | session moves =>
    exact Session.run_keeps_phone (P := fun p => p.closed = false) opened_of_deed opened_outside start moves
  | within _ _ course ih =>
    exact course.keeps (P := fun p => p.closed = false) (fun _ _ => opened_of_deed)
      (fun _ o _ => opened_outside o) ih

end Phone
end CallAudio

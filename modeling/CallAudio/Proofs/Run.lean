import CallAudio.Bench.Act
import CallAudio.Thread

/-! Runs of the route thread and of the state machine used alone. Between two moves, and while a
message waits for the headset service, anything may go on around them. -/
namespace CallAudio

/-- What goes on around the thread. The communication device also changes when others use the audio
operations; timers that are due post in any order. -/
inductive Outside where
  | post (message : Message)
  | event (act : Bench.EventAct)
  | registry (act : Bench.RegistryAct)
  | communication (device : Option (Address × EndpointKind))
  | platform (platform : Platform)
  | fire (timer : Nat)
  | pass (span : Nat)

namespace Phone

def fireTimer (id : Nat) (p : Phone) : Phone :=
  match p.timers.armed.find? fun t => t.id = id with
  | none => p
  | some t => if t.due ≤ p.now then { p with timers := p.timers.cancel id }.post t.value else p

def outside (p : Phone) : Outside → Phone
  | .post message => p.post message
  | .event act => (act.run p).2
  | .registry act => (act.run p).2
  | .communication device => { p with registry := { p.registry with communication := device } }
  | .platform platform => { p with platform }
  | .fire timer => p.fireTimer timer
  | .pass span => { p with now := p.now + span }

def outsides (p : Phone) (os : List Outside) : Phone := os.foldl outside p

end Phone

/-- A move that is not possible changes nothing. -/
inductive ThreadMove where
  | start
  | stop
  | handle
  | resume
  | outside (o : Outside)

namespace Thread

def fresh (config : RouteConfig) (attached : List Profile) : Thread :=
  ⟨.start config attached, .unstarted⟩

def move (t : Thread) : ThreadMove → Thread
  | .start => t.start
  | .stop => t.stop
  | .handle => t.handleNext?.getD t
  | .resume => t.resume?.getD t
  | .outside o => { t with phone := t.phone.outside o }

def run (t : Thread) (moves : List ThreadMove) : Thread := moves.foldl move t

/-- What every move keeps, every run keeps. -/
theorem run_keeps {P : Thread → Prop} (keeps : ∀ t m, P t → P (t.move m)) {t : Thread} (h : P t)
    (moves : List ThreadMove) : P (t.run moves) := by
  induction moves generalizing t with
  | nil => exact h
  | cons m rest ih => exact ih (keeps t m h)

end Thread

/-- Work that is resumed goes on once, with or without the service, from the phone as it then is. -/
theorem Work.resume?_cases {w w' : Work Unit} {p q : Phone} (h : w.resume? p = some (w', q)) :
    ∃ deadline resume attached, w = .waiting deadline resume ∧
      (w', q) = Work.ofStep (resume attached p) := by
  cases w with
  | finished => cases h
  | waiting deadline resume =>
    simp only [resume?] at h
    split at h
    · exact ⟨deadline, resume, true, rfl, (Option.some.inj h).symm⟩
    · split at h
      · exact ⟨deadline, resume, false, rfl, (Option.some.inj h).symm⟩
      · cases h

namespace Thread

variable {t u : Thread}

theorem resume?_cases (h : t.resume? = some u) :
    ∃ deadline resume attached, t.loop = .running (.waiting deadline resume) ∧
      let w := Work.ofStep (resume attached t.phone)
      u = ⟨w.2, .running w.1⟩ := by
  unfold resume? at h
  split at h
  · rename_i work hl
    obtain ⟨⟨work', q⟩, hr, rfl⟩ := Option.map_eq_some_iff.mp h
    obtain ⟨deadline, resume, attached, rfl, hw⟩ := Work.resume?_cases hr
    refine ⟨deadline, resume, attached, hl, ?_⟩
    rw [← hw]
  · cases h

/-- Only an idle thread takes a message. -/
theorem handleNext?_cases (h : t.handleNext? = some u) :
    t.isIdle = true ∧ ∃ message rest, t.phone.inbox = message :: rest ∧
      let w := Work.ofStep (Phone.handle message { t.phone with inbox := rest })
      u = ⟨w.2, .running w.1⟩ := by
  unfold handleNext? at h
  split at h
  · rename_i message rest hl hi
    exact ⟨by simp only [isIdle, hl], message, rest, hi, (Option.some.inj h).symm⟩
  · cases h

end Thread

inductive MachineCall where
  | deviceAdded (device : Device) (profile : Profile)
  | deviceLost (address : Address) (profile : Profile)
  | activeDeviceChanged (profile : Profile) (address : Option Address)
  | connect (requested : Option Address) (attempt : Nat)
  | retryConnect (address : Address) (attempt : Nat)
  | disconnect
  | connectionTimeout (address : Address)
  | audioOn (address : Address)
  | audioLost (address : Option Address)

def MachineCall.job : MachineCall → Job Unit
  | deviceAdded device profile => Job.update (Phone.onDeviceAdded device profile)
  | deviceLost address profile => Phone.onDeviceLost address profile
  | activeDeviceChanged profile address => Job.update (Phone.onActiveDeviceChanged profile address)
  | connect requested attempt => do let _ ← Phone.connect requested attempt
  | retryConnect address attempt => do let _ ← Phone.retryConnect address attempt
  | disconnect => Phone.disconnect
  | connectionTimeout address => Phone.onConnectionTimeout address
  | audioOn address => Job.update (Phone.onAudioOn address)
  | audioLost address => Phone.onAudioLost address

/-- The state machine used directly, one call after the other. -/
structure Session where
  phone : Phone
  work : Work Unit

inductive SessionMove where
  | call (c : MachineCall)
  | resume
  | outside (o : Outside)

namespace Session

def fresh (config : RouteConfig) (attached : List Profile) : Session :=
  ⟨.start config attached, .finished ()⟩

def ofWork (w : Work Unit × Phone) : Session := ⟨w.2, w.1⟩

def move (s : Session) : SessionMove → Session
  | .call c =>
    match s.work with
    | .finished _ => ofWork (Work.ofStep (c.job s.phone))
    | .waiting _ _ => s
  | .resume => ((s.work.resume? s.phone).map ofWork).getD s
  | .outside o => { s with phone := s.phone.outside o }

def run (s : Session) (moves : List SessionMove) : Session := moves.foldl move s

theorem run_keeps {P : Session → Prop} (keeps : ∀ s m, P s → P (s.move m)) {s : Session} (h : P s)
    (moves : List SessionMove) : P (s.run moves) := by
  induction moves generalizing s with
  | nil => exact h
  | cons m rest ih => exact ih (keeps s m h)

end Session
end CallAudio

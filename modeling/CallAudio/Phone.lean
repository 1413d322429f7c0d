import CallAudio.Config
import CallAudio.Machine
import CallAudio.Notice
import CallAudio.Registry
import CallAudio.Timers
import CallAudio.Transition.Tracker

/-! Everything that call audio routing reads and changes, and the operations that take no time. -/
namespace CallAudio

/-- What platform events are judged by: whether a call is on, and the last communication device
kind. -/
structure Dispatcher where
  inCall : Bool := false
  communicationKind : Option EndpointKind := none
deriving DecidableEq, Repr

/-- The time is in nanoseconds, `inbox` holds the messages not yet handled, oldest first, and
`deadline` is the timer of the pending transition. -/
structure Phone where
  config : RouteConfig
  now : Nat := 0
  timers : Timers Message := {}
  platform : Platform := {}
  registry : Registry := {}
  inbox : List Message := []
  closed : Bool := false
  machine : Machine
  tracker : TransitionTracker := {}
  deadline : Option Nat := none
  dispatcher : Dispatcher := {}
  answers : Table Ticket Answer := []
  journal : List JournalEntry := []

namespace Phone

/-- A phone as it is switched on, with the given profile services attached. -/
def start (config : RouteConfig) (attached : List Profile) : Phone :=
  { config
    machine := .ofCapacity config.logCapacity.toNat
    registry := attached.foldl Registry.attach {} }

/-- Puts a message into the inbox; once the route thread is gone it is dropped. -/
def post (message : Message) (p : Phone) : Phone :=
  if p.closed then p else { p with inbox := p.inbox ++ [message] }

def record (happening : Happening) (p : Phone) : Phone :=
  { p with journal := p.journal ++ [⟨happening, p.machine.state⟩] }

def tell (event : RouteEvent) (p : Phone) : Phone := p.record (.told event)

def announce (event : TransitionEvent) (p : Phone) : Phone := p.record (.announced event)

def note (entry : HistoryEntry) (p : Phone) : Phone :=
  { p with machine := { p.machine with history := p.machine.history.push entry } }

def answer (ticket : Ticket) (value : Answer) (p : Phone) : Phone :=
  { p with answers := p.answers.set ticket value }

def postAfter (delay : Duration) (message : Message) (p : Phone) : Phone :=
  { p with timers := p.timers.arm (p.now + delay.toNanos) message }

def cancel (timer : Option Nat) (p : Phone) : Phone :=
  match timer with
  | some id => { p with timers := p.timers.cancel id }
  | none => p

def dropRetry (p : Phone) : Phone :=
  let p' := p.cancel p.machine.retry
  { p' with machine := { p'.machine with retry := none } }

def dropConnectionTimer (p : Phone) : Phone :=
  let p' := p.cancel p.machine.connectionTimer
  { p' with machine := { p'.machine with connectionTimer := none } }

def dropDeadline (p : Phone) : Phone := { p.cancel p.deadline with deadline := none }

/-- Schedules a retry instead of any earlier one. -/
def scheduleRetry (target : Address) (attempt : Nat) (p : Phone) : Phone :=
  let armed := p.postAfter (p.config.backoff attempt) (.retryConnect target attempt)
  let alone := armed.cancel p.machine.retry
  { alone with machine := { alone.machine with retry := some p.timers.nextId } }

def startConnectionTimer (target : Address) (p : Phone) : Phone :=
  let armed := p.postAfter p.config.connectionTimeout (.connectionTimeout target)
  { armed with machine := { armed.machine with connectionTimer := some p.timers.nextId } }

/-- Gives a transition its deadline, instead of the deadline of an earlier one. -/
def startDeadline (id : TransitionId) (p : Phone) : Phone :=
  let armed := p.postAfter p.config.transitionTimeout (.transitionTimeout id)
  { armed.cancel p.deadline with deadline := some p.timers.nextId }

def hasScheduledRetry (p : Phone) : Bool := p.machine.retry.any p.timers.isArmed

def membership (p : Phone) : SetMembership :=
  ⟨p.platform.hearingAid.pairs.get?, p.platform.leAudio.groups.get?⟩

def fire (p : Phone) : Phone :=
  let rest := { p with timers := p.timers.expire p.now }
  (p.timers.due p.now).foldl (fun q message => q.post message) rest

def addDevice (device : Device) (profile : Profile) (p : Phone) : Except DeviceRefusal Bool × Phone :=
  let (answer, registry) := p.registry.connect p.membership device profile
  (answer, { p with registry })

def removeDevice (address : Address) (profile : Profile) (p : Phone) : Bool × Phone :=
  let (answer, registry) := p.registry.disconnect address profile
  (answer, { p with registry })

def setActiveDevice (profile : Profile) (address : Option Address) (p : Phone) :
    (Bool × Bool) × Phone :=
  let (answer, registry) := p.registry.setActive profile address
  (answer, { p with registry })

def attach (profile : Profile) (p : Phone) : Phone := { p with registry := p.registry.attach profile }

def detach (profile : Profile) (p : Phone) : List Address × Phone :=
  let (addresses, registry) := p.registry.detach profile
  (addresses, { p with registry })

/-- The connected devices with sets collapsed, as the adapter sees them. -/
def uniqueConnected (p : Phone) : List Device :=
  p.registry.uniqueConnected (p.platform.adapter.active.get .hearingAid)
    (p.platform.adapter.active.get .leAudio)

def chooseCommunicationDevice (device : CommunicationDevice) (p : Phone) : Bool × Phone :=
  let (accepted, audio) := p.platform.audio.choose device
  (accepted, { p with platform := { p.platform with audio } })

def clearCommunicationDevice (p : Phone) : Phone :=
  { p with platform := { p.platform with audio := p.platform.audio.clear } }

/-- Makes a connected device the communication device unless it is already; false if the audio
service does not offer it or refuses. -/
def makeCommunicationDevice (address : Address) (p : Phone) : Bool × Phone :=
  match p.registry.profileOf address with
  | none => (false, p)
  | some profile =>
    let kind := EndpointKind.ofProfile profile
    if p.registry.communication = some (address, kind) then (true, p)
    else
      let offered (d : CommunicationDevice) : Bool := d.kind = kind && d.address = some address
      match p.platform.audio.available.find? offered with
      | none => (false, p)
      | some device =>
        let (accepted, asked) := p.chooseCommunicationDevice device
        if accepted then
          let registry := { asked.registry with communication := some (address, kind) }
          (true, { asked with registry })
        else (false, asked)

/-- Moves the machine to another state, which drops its timers; nothing happens within one state. -/
def moveTo (target : RouteState) (p : Phone) : Phone :=
  let source := p.machine.state
  if target = source then p
  else
    let moved := { p with machine := { p.machine with state := target } }
    let quiet := moved.dropRetry.dropConnectionTimer.note (.moved source target)
    match target with
    | .audioOff => quiet.tell .audioDisconnected
    | .connecting address => quiet.startConnectionTimer address
    | .connected address =>
      let used := { quiet with machine := quiet.machine.use address }
      let (accepted, told) := (used.tell (.audioConnected address)).makeCommunicationDevice address
      if accepted then told else told.post (.transitionFailed (some address))

end Phone
end CallAudio

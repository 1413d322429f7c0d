import CallAudio.Bench.Call
import CallAudio.Bench.Clock

/-! Scenarios: steps performed on a bench, with a reading taken after each. -/
namespace CallAudio.Bench

inductive Instant where
  | act (act : Act)
  | later (delay : Nat) (act : Act)
  | start
  | stop

/-- A step of a scenario. The instants of a burst follow each other with nothing between them. -/
inductive ScenarioStep where
  | instant (instant : Instant)
  | burst (instants : List Instant)
  | call (call : Call)
  | ask (question : Query)
  | begin (origin destination : AudioRoute) (destinationActive : Bool)
  | advance (span : Nat)

def Instant.run (b : Bench) : Instant → Reply × Bench
  | act a => (a.run b.phone).map id b.withPhone
  | later delay a => (.nothing, { b with later := b.later.arm (b.phone.now + delay) a })
  | start => (.nothing, { b with thread := b.thread.start })
  | stop => (.nothing, { b with thread := b.thread.stop })

def runInstants (b : Bench) : List Instant → List Reply × Bench
  | [] => ([], b)
  | i :: rest =>
    let (reply, b) := i.run b
    let (replies, b) := runInstants b rest
    (reply :: replies, b)

/-- How an answer, or its absence, is read for each question. -/
def replyOf (answer : Option Answer) : Query → Reply
  | .connectedOrPending => .flag (answer = some (.flag true))
  | .state => .state (match answer with | some (.state s) => some s | _ => none)
  | .dump => .lines (match answer with | some (.lines l) => l | _ => [])
  | .sync => .flag (answer = some .done)

def ScenarioStep.run (b : Bench) : ScenarioStep → Reply × Bench
  | instant i => i.run b
  | burst is => (runInstants b is).map .several id
  | call c => (b.await c.job).map (·.getD .nothing) id
  | ask question => (b.ask (.query question)).map (replyOf · question) id
  | begin origin destination destinationActive =>
    (b.ask (.beginTransition origin destination destinationActive)).map
      (fun answer => .transition (match answer with | some (.begun id) => some id | _ => none)) id
  | advance span => (.nothing, b.advance span)

/-- The calls to the listener for devices and audio among journal entries. -/
def routeEvents (entries : List JournalEntry) : List RouteEvent :=
  entries.filterMap fun entry => match entry.happening with
    | .told event => some event
    | _ => none

/-- The calls to the listener for transitions among journal entries. -/
def transitionEvents (entries : List JournalEntry) : List TransitionEvent :=
  entries.filterMap fun entry => match entry.happening with
    | .announced event => some event
    | _ => none

/-- A reading of the state machine used directly; the messages are those posted since the last
reading. -/
structure MachineReading where
  reply : Reply
  time : Nat
  state : RouteState
  recent : List Address
  retryScheduled : Bool
  messages : List Message
  events : List RouteEvent

inductive Presence where
  | gone
  | busy
  | showing (state : RouteState)
deriving DecidableEq, Repr

structure ThreadReading where
  reply : Reply
  time : Nat
  presence : Presence
  events : List RouteEvent
  transitions : List TransitionEvent

/-- The journal entries since the last reading are removed from the journal. -/
def readMachine (reply : Reply) (b : Bench) : MachineReading × Bench :=
  let p := b.phone
  ({ reply
     time := p.now
     state := p.machine.state
     recent := p.machine.recent
     retryScheduled := p.hasScheduledRetry
     messages := p.inbox
     events := routeEvents p.journal },
    b.withPhone { p with inbox := [], journal := [] })

def presence (b : Bench) : Presence :=
  match b.thread.loop with
  | .gone => .gone
  | _ => if b.thread.isIdle then .showing b.phone.machine.state else .busy

def readThread (reply : Reply) (b : Bench) : ThreadReading × Bench :=
  let p := b.phone
  ({ reply
     time := p.now
     presence := b.presence
     events := routeEvents p.journal
     transitions := transitionEvents p.journal },
    b.withPhone { p with journal := [] })

/-- Performs steps, letting everything happen that can before each reading. -/
def perform {ρ : Type} (read : Reply → Bench → ρ × Bench) (b : Bench) :
    List ScenarioStep → List ρ × Bench
  | [] => ([], b)
  | step :: rest =>
    let (reply, b) := step.run b
    let (reading, b) := read reply b.settle
    let (readings, b) := perform read b rest
    (reading :: readings, b)

/-- A bench for the state machine alone: no thread handles the messages. -/
def forMachine (config : RouteConfig) (attached : List Profile) : Bench :=
  { thread := ⟨.start config attached, .unstarted⟩ }

def forThread (config : RouteConfig) (attached : List Profile) (started : Bool) : Bench :=
  let thread : Thread := ⟨.start config attached, .unstarted⟩
  { thread := if started then thread.start else thread }

/-- The readings of a scenario with the state machine alone, and the platform after it. -/
def runMachine (config : RouteConfig) (attached : List Profile) (steps : List ScenarioStep) :
    List MachineReading × Platform :=
  (perform readMachine (forMachine config attached) steps).map id fun b => b.phone.platform

/-- The readings of a scenario with a route thread, and the platform after it. -/
def runThread (config : RouteConfig) (attached : List Profile) (started : Bool)
    (steps : List ScenarioStep) : List ThreadReading × Platform :=
  (perform readThread (forThread config attached started) steps).map id fun b => b.phone.platform

end CallAudio.Bench

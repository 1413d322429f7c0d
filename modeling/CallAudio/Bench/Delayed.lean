import CallAudio.Table
import CallAudio.Timers

/-! Delayed sends on a clock of their own. A send is cancelled by dropping its handle; handles are
kept under numbers of the caller's choice. The runtime is prompt: it starts every send before the next
step and before the clock moves, and a timer fires as soon as its deadline is reached. -/
namespace CallAudio

structure DelayedSends (μ : Type) where
  now : Nat := 0
  timers : Timers μ := {}
  handles : Table Nat Nat := []
  received : List μ := []

namespace DelayedSends

variable {μ : Type}

def handle? (s : DelayedSends μ) (key : Nat) : Option Nat := s.handles.get? key

def drop (s : DelayedSends μ) (key : Nat) : Bool × DelayedSends μ :=
  match s.handle? key with
  | none => (false, s)
  | some id =>
    (true, { s with timers := s.timers.cancel id, handles := s.handles.erase key })

/-- Sends a value after a delay; an older send under the same key is dropped, and the reply says
so. -/
def send (s : DelayedSends μ) (key : Nat) (value : μ) (delay : Nat) : Bool × DelayedSends μ :=
  let id := s.timers.nextId
  let (replaced, s) := { s with timers := s.timers.arm (s.now + delay) value }.drop key
  (replaced, { s with handles := s.handles.set key id })

/-- Whether the send behind a handle is over. -/
def isFinished? (s : DelayedSends μ) (key : Nat) : Option Bool :=
  (s.handle? key).map fun id => !s.timers.isArmed id

def deliver (s : DelayedSends μ) : DelayedSends μ :=
  { s with timers := s.timers.expire s.now, received := s.received ++ s.timers.due s.now }

/-- Lets a span of time pass and delivers everything due by its end, in the order of the due
times. -/
def advance (s : DelayedSends μ) (span : Nat) : DelayedSends μ :=
  { s with now := s.now + span }.deliver

end DelayedSends

/-- A step on delayed sends; spans are in milliseconds. -/
inductive DelayedStep (μ : Type) where
  | send (key : Nat) (value : μ) (delay : Nat)
  | drop (key : Nat)
  | isFinished (key : Nat)
  | advance (span : Nat)

/-- The reply to a step, the time after it and the values received since the last. -/
structure DelayedReading (μ : Type) where
  reply : Option Bool
  time : Nat
  received : List μ

namespace DelayedStep

variable {μ : Type}

def run (s : DelayedSends μ) : DelayedStep μ → Option Bool × DelayedSends μ
  | send key value delay => (s.send key value delay).map some id
  | drop key => (s.drop key).map some id
  | isFinished key => (s.isFinished? key, s)
  | advance span => (none, s.advance span)

/-- Performs steps, each followed by a turn of the runtime, which delivers what is due by then. So a send
without delay is delivered before its handle can be dropped in the same instant; a runtime that lets the
handle be dropped first would not deliver it. -/
def perform (s : DelayedSends μ) : List (DelayedStep μ) → List (DelayedReading μ)
  | [] => []
  | step :: rest =>
    let (reply, s') := step.run s
    let settled := s'.deliver
    ⟨reply, settled.now, settled.received.drop s.received.length⟩ :: perform settled rest

end DelayedStep
end CallAudio

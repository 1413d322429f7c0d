/-! Values that are due at a later time, each of which can be cancelled until it is delivered. -/
namespace CallAudio

structure Timer (μ : Type) where
  id : Nat
  due : Nat
  value : μ
deriving DecidableEq, Repr

/-- The armed timers in the order they will fire, and the number the next one gets. -/
structure Timers (μ : Type) where
  nextId : Nat := 0
  armed : List (Timer μ) := []
deriving DecidableEq, Repr

namespace Timers

variable {μ : Type}

/-- Puts a timer behind all that are due no later. -/
def insert (t : Timer μ) : List (Timer μ) → List (Timer μ)
  | [] => [t]
  | x :: rest => if x.due ≤ t.due then x :: insert t rest else t :: x :: rest

/-- Arms a timer; its number is the one `nextId` had before. -/
def arm (ts : Timers μ) (due : Nat) (value : μ) : Timers μ :=
  ⟨ts.nextId + 1, insert ⟨ts.nextId, due, value⟩ ts.armed⟩

/-- Cancelling a timer that has fired, or was cancelled, changes nothing. -/
def cancel (ts : Timers μ) (id : Nat) : Timers μ :=
  { ts with armed := ts.armed.filter fun t => t.id ≠ id }

def isArmed (ts : Timers μ) (id : Nat) : Bool := ts.armed.any fun t => t.id = id

/-- The values due at a time, in the order they are delivered. -/
def due (ts : Timers μ) (now : Nat) : List μ :=
  (ts.armed.filter fun t => t.due ≤ now).map Timer.value

/-- The timers left once everything due at a time has been delivered. -/
def expire (ts : Timers μ) (now : Nat) : Timers μ :=
  { ts with armed := ts.armed.filter fun t => ¬ t.due ≤ now }

def next? (ts : Timers μ) : Option Nat := ts.armed.head?.map Timer.due

def clear (ts : Timers μ) : Timers μ := { ts with armed := [] }

end Timers
end CallAudio

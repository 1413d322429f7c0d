/-! A bounded log: once it is full, each new entry pushes out the oldest. -/
namespace CallAudio

/-- The retained entries, oldest first, and how many may be kept. -/
structure EventLog (α : Type) where
  capacity : Nat
  entries : List α
deriving Repr

namespace EventLog

def defaultCapacity : Nat := 20

/-- An empty log; a capacity of zero is raised to one. -/
def ofCapacity {α : Type} (capacity : Nat) : EventLog α := ⟨max capacity 1, []⟩

def push {α : Type} (log : EventLog α) (entry : α) : EventLog α :=
  let kept := if log.entries.length = log.capacity then log.entries.tail else log.entries
  { log with entries := kept ++ [entry] }

def size {α : Type} (log : EventLog α) : Nat := log.entries.length

def isEmpty {α : Type} (log : EventLog α) : Bool := log.entries.isEmpty

end EventLog
end CallAudio

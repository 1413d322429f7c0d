import CallAudio.Bench.Act
import CallAudio.Thread

/-! A bench with a clock of its own. The clock stands still while anything can happen and then
moves to the next time at which something is due. -/
namespace CallAudio

/-- A thread, what is to be done to its phone later, and the number of the next question. -/
structure Bench where
  thread : Thread
  later : Timers Bench.Act := {}
  nextTicket : Ticket := 0

namespace Bench

variable {α : Type}

def phone (b : Bench) : Phone := b.thread.phone

def withPhone (b : Bench) (phone : Phone) : Bench := { b with thread := { b.thread with phone } }

def setTime (b : Bench) (now : Nat) : Bench := b.withPhone { b.phone with now }

/-- Fires what is due now: first the timers, then what was left for later. -/
def fire? (b : Bench) : Option Bench :=
  let now := b.phone.now
  if (b.phone.timers.due now).isEmpty && (b.later.due now).isEmpty then none
  else
    let fired := { b with later := b.later.expire now }
    some (fired.withPhone ((b.later.due now).foldl (fun p act => (act.run p).2) b.phone.fire))

/-- One thing that can happen at the current time beside a client's work: waiting work goes on, then
messages are handled, and timers fire when nothing else is left. -/
def turn? (b : Bench) (client : Work α) : Option (Bench × Work α) :=
  match b.thread.resume? with
  | some thread => some ({ b with thread }, client)
  | none =>
    match client.resume? b.phone with
    | some (client, phone) => some (b.withPhone phone, client)
    | none =>
      match b.thread.handleNext? with
      | some thread => some ({ b with thread }, client)
      | none => b.fire?.map (·, client)

def nextTime? (b : Bench) (client : Work α) : Option Nat :=
  ([b.phone.timers.next?, b.later.next?, b.thread.deadline?, client.deadline?].filterMap id).min?

/-- More turns than the messages, timers and devices at hand can give rise to: each leads to fewer
than sixty-four. -/
def budget (b : Bench) : Nat :=
  let devices := Registry.listingOrder.flatMap b.phone.registry.devices.get
  64 * (b.phone.inbox.length + b.phone.timers.armed.length +
    b.later.armed.length * (devices.length + 1) + devices.length + 4)

/-- Lets everything happen up to a time, or until `enough` holds with nothing left to do at once. -/
def play (enough : Bench → Work α → Bool) (limit : Option Nat) :
    Nat → Bench → Work α → Bench × Work α
  | 0, b, client => (b, client)
  | fuel + 1, b, client =>
    match b.turn? client with
    | some (b, client) => play enough limit fuel b client
    | none =>
      if enough b client then (b, client)
      else match b.nextTime? client, limit with
        | some time, none => play enough limit fuel (b.setTime time) client
        | some time, some last =>
          if time ≤ last then play enough limit fuel (b.setTime time) client
          else (b.setTime last, client)
        | none, some last => (b.setTime last, client)
        | none, none => (b, client)

/-- Lets everything happen that can at the current time. -/
def settle (b : Bench) : Bench :=
  (play (fun _ _ => true) none b.budget b (.finished ())).1

def advance (b : Bench) (span : Nat) : Bench :=
  (play (fun _ _ => false) (some (b.phone.now + span)) b.budget b (.finished ())).1

/-- Runs a job to its end, however long it waits. -/
def await (b : Bench) (job : Job α) : Option α × Bench :=
  let (client, phone) := Work.ofStep (job b.phone)
  let finished (_ : Bench) (client : Work α) : Bool := client.value?.isSome
  let (b, client) := play finished none b.budget (b.withPhone phone) client
  (client.value?, b)

/-- Posts a message that carries a ticket and waits for the answer for a bounded time; without a
thread there is none. An answer that comes no sooner than the time is up is too late. -/
def ask (b : Bench) (message : Ticket → Message) : Option Answer × Bench :=
  let ticket := b.nextTicket
  let asked := { b with nextTicket := ticket + 1 }
  if b.phone.closed then (none, asked)
  else
    let limit := b.phone.now + queryTimeout.toNanos
    let posted := asked.withPhone (b.phone.post (message ticket))
    let answered (b : Bench) (_ : Work Unit) : Bool := (b.phone.answers.get? ticket).isSome
    let (b, _) := play answered (some (limit - 1)) posted.budget posted (.finished ())
    match b.phone.answers.get? ticket with
    | some answer => (some answer, b)
    | none => (none, b.setTime limit)

end Bench
end CallAudio

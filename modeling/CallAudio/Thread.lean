import CallAudio.Phone.Coordinator
import CallAudio.Work

/-! The route thread: it handles the messages of the inbox one after the other. While one of them
waits for the headset service the others stay queued. -/
namespace CallAudio

/-- A running thread is idle when its last message is finished. -/
inductive Loop where
  | unstarted
  | running (work : Work Unit)
  | gone

structure Thread where
  phone : Phone
  loop : Loop

namespace Thread

def isIdle (t : Thread) : Bool :=
  match t.loop with
  | .running (.finished _) => true
  | _ => false

def start (t : Thread) : Thread :=
  match t.loop with
  | .unstarted => { t with loop := .running (.finished ()) }
  | _ => t

/-- Ends the thread. Its timers go with it, and nothing can be posted any more. -/
def stop (t : Thread) : Thread :=
  let p := t.phone
  { phone :=
      { p with
        inbox := []
        closed := true
        timers := p.timers.clear
        deadline := none
        machine := { p.machine with retry := none, connectionTimer := none } }
    loop := .gone }

/-- Goes on with a message that waited. -/
def resume? (t : Thread) : Option Thread :=
  match t.loop with
  | .running work => (work.resume? t.phone).map fun (work, phone) => ⟨phone, .running work⟩
  | _ => none

def handleNext? (t : Thread) : Option Thread :=
  match t.loop, t.phone.inbox with
  | .running (.finished _), message :: rest =>
    let (work, phone) := Work.ofStep (Phone.handle message { t.phone with inbox := rest })
    some ⟨phone, .running work⟩
  | _, _ => none

def deadline? (t : Thread) : Option Nat :=
  match t.loop with
  | .running work => work.deadline?
  | _ => none

end Thread
end CallAudio

import CallAudio.Endpoint
import CallAudio.Table

/-! The platform services that call audio is moved with. Each answers from what it was set up with
and keeps an account of the requests made to it. -/
namespace CallAudio

inductive ActiveUse
  | phoneCall
  | all
deriving DecidableEq, Repr

inductive ScoState
  | disconnected
  | connecting
  | connected
deriving DecidableEq, Repr

namespace ScoState

def ofRaw? (n : UInt32) : Option ScoState :=
  if n = 10 then some disconnected
  else if n = 11 then some connecting
  else if n = 12 then some connected
  else none

def name : ScoState → String
  | disconnected => "Disconnected"
  | connecting => "Connecting"
  | connected => "Connected"

end ScoState

inductive ScoReply
  | success
  | alreadyConnected
  | alreadyDisconnected
  | error (code : Int32)
deriving DecidableEq, Repr

namespace ScoReply

def isAccepted : ScoReply → Bool
  | success | alreadyConnected => true
  | alreadyDisconnected | error _ => false

def name : ScoReply → String
  | success => "Success"
  | alreadyConnected => "AlreadyConnected"
  | alreadyDisconnected => "AlreadyDisconnected"
  | error code => "Error(" ++ toString code.toInt ++ ")"

end ScoReply

/-- The adapter: which devices are active, and whether one may be made active. -/
structure Adapter where
  active : PerProfile (List Address) := .uniform []
  rejected : List Address := []
  requests : List (Address × ActiveUse) := []
deriving DecidableEq, Repr

namespace Adapter

def reject (x : Adapter) (address : Address) : Adapter := { x with rejected := address :: x.rejected }

def accept (x : Adapter) (address : Address) : Adapter :=
  { x with rejected := x.rejected.filter (· ≠ address) }

/-- Asks for a device to be made active; the answer is false if the stack rejects it. -/
def activate (x : Adapter) (address : Address) (use : ActiveUse) : Bool × Adapter :=
  (!x.rejected.contains address, { x with requests := x.requests ++ [(address, use)] })

end Adapter

/-- The headset service, which carries the audio link to classic headsets. -/
structure HeadsetService where
  connectReply : ScoReply := .success
  connects : Nat := 0
  disconnects : Nat := 0
  states : Table Address ScoState := []
  inbandRinging : Bool := false
deriving DecidableEq, Repr

namespace HeadsetService

def connect (x : HeadsetService) : ScoReply × HeadsetService :=
  (x.connectReply, { x with connects := x.connects + 1 })

def disconnect (x : HeadsetService) : HeadsetService := { x with disconnects := x.disconnects + 1 }

def state (x : HeadsetService) (address : Address) : ScoState :=
  (x.states.get? address).getD .disconnected

end HeadsetService

/-- The hearing aid service, which knows the pairs. -/
structure HearingAidService where
  pairs : Table Address PairId := []
deriving DecidableEq, Repr

/-- The LE Audio service, which knows the coordinated sets. -/
structure LeAudioService where
  groups : Table Address GroupId := []
  inbandGroups : List GroupId := []
deriving DecidableEq, Repr

def LeAudioService.setInband (x : LeAudioService) (group : GroupId) (enabled : Bool) :
    LeAudioService :=
  let others := x.inbandGroups.filter (· ≠ group)
  { x with inbandGroups := if enabled then group :: others else others }

/-- The audio service. A communication device it does not refuse takes effect at once. -/
structure AudioService where
  available : List CommunicationDevice := []
  current : Option CommunicationDevice := none
  requests : List CommunicationDevice := []
  clears : Nat := 0
  refuses : Bool := false
deriving DecidableEq, Repr

namespace AudioService

def choose (x : AudioService) (device : CommunicationDevice) : Bool × AudioService :=
  let asked := { x with requests := x.requests ++ [device] }
  if x.refuses then (false, asked) else (true, { asked with current := some device })

/-- Leaves the choice of communication device to the platform again. -/
def clear (x : AudioService) : AudioService := { x with clears := x.clears + 1, current := none }

end AudioService

structure Platform where
  adapter : Adapter := {}
  headset : HeadsetService := {}
  hearingAid : HearingAidService := {}
  leAudio : LeAudioService := {}
  audio : AudioService := {}
deriving DecidableEq, Repr

end CallAudio

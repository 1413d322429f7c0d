import CallAudio.Phone

/-! Platform notifications and the messages they turn into. -/
namespace CallAudio

inductive ConnectionState
  | disconnected
  | connecting
  | connected
  | disconnecting
deriving DecidableEq, Repr

namespace ConnectionState

def ofRaw? (n : UInt32) : Option ConnectionState :=
  if n = 0 then some disconnected
  else if n = 1 then some connecting
  else if n = 2 then some connected
  else if n = 3 then some disconnecting
  else none

def name : ConnectionState → String
  | disconnected => "Disconnected"
  | connecting => "Connecting"
  | connected => "Connected"
  | disconnecting => "Disconnecting"

end ConnectionState

inductive PlatformEvent
  | connectionChanged (profile : Profile) (device : Device) (state : ConnectionState)
  | activeDeviceChanged (profile : Profile) (address : Option Address)
  | scoChanged (address : Address) (state : ScoState)
deriving DecidableEq, Repr

namespace PlatformEvent

/-- A connection event from the platform's numbers, if both mean something. -/
def connectionOfRaw? (profile : UInt32) (device : Device) (state : UInt32) : Option PlatformEvent := do
  return .connectionChanged (← Profile.ofRaw? profile) device (← ConnectionState.ofRaw? state)

/-- An audio link event from the platform's number. -/
def scoOfRaw? (address : Address) (state : UInt32) : Option PlatformEvent := do
  return .scoChanged address (← ScoState.ofRaw? state)

def description : PlatformEvent → String
  | connectionChanged profile device state =>
    "ConnectionStateChanged \x7b profile: " ++ profile.name ++ ", device: " ++ device.description ++
      ", state: " ++ state.name ++ " \x7d"
  | activeDeviceChanged profile address =>
    "ActiveDeviceChanged \x7b profile: " ++ profile.name ++ ", address: " ++
      Text.optional Address.redacted address ++ " \x7d"
  | scoChanged address state =>
    "ScoAudioStateChanged \x7b address: " ++ address.redacted ++ ", state: " ++ state.name ++ " \x7d"

/-- The messages for an event. The audio link tells for classic headsets whether audio is on; for
the other profiles an active device means so during a call. -/
def messages (inCall : Bool) : PlatformEvent → List Message
  | connectionChanged profile device .connected => [.deviceAdded device profile]
  | connectionChanged profile device .disconnected => [.deviceLost device.address profile]
  | connectionChanged _ _ _ => []
  | activeDeviceChanged .classicHeadset address => [.activeDeviceChanged .classicHeadset address]
  | activeDeviceChanged profile (some address) =>
    .activeDeviceChanged profile (some address) :: if inCall then [.audioOn address] else []
  | activeDeviceChanged profile none => [.activeDeviceChanged profile none, .audioLost none]
  | scoChanged address .connected => [.audioOn address]
  | scoChanged address .disconnected => [.audioLost (some address)]
  | scoChanged _ .connecting => []

end PlatformEvent

namespace Dispatcher

/-- The confirmations for a new communication device: the change itself if it has an address, then
the loudspeaker coming on or going off. -/
def confirmations (d : Dispatcher) (device : Option CommunicationDevice) : List Confirmation :=
  let speaker (kind : Option EndpointKind) : Bool := kind = some .speaker
  let changed : List Confirmation := match device.bind CommunicationDevice.address with
    | some address => [⟨none, .communicationDeviceChanged, some address⟩]
    | none => []
  let after := speaker (device.map CommunicationDevice.kind)
  let before := speaker d.communicationKind
  changed ++
    (if after && !before then [⟨none, .speakerOn, none⟩]
    else if before && !after then [⟨none, .speakerOff, none⟩]
    else [])

end Dispatcher

namespace Phone

def postAll (messages : List Message) (p : Phone) : Phone :=
  messages.foldl (fun q message => q.post message) p

def onPlatformEvent (event : PlatformEvent) (p : Phone) : Phone :=
  p.postAll (event.messages p.dispatcher.inCall)

/-- The audio service switched its communication device. -/
def onCommunicationDeviceChanged (device : Option CommunicationDevice) (p : Phone) : Phone :=
  let confirmations := p.dispatcher.confirmations device
  let switched := { p.dispatcher with communicationKind := device.map CommunicationDevice.kind }
  { p with dispatcher := switched }.postAll (confirmations.map Message.confirmation)

/-- A profile service went away; its devices are reported lost. -/
def onServiceLost (profile : Profile) (p : Phone) : Phone :=
  let (addresses, detached) := p.detach profile
  detached.postAll (addresses.map fun address => .deviceLost address profile)

end Phone
end CallAudio

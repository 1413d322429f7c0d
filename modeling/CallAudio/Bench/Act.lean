import CallAudio.Phone.Machine
import CallAudio.PlatformEvent

/-! What can be done to a phone from outside without waiting, and the replies. -/
namespace CallAudio.Bench

inductive Reply where
  | nothing
  | invalid
  | flag (value : Bool)
  | address (value : Option Address)
  | addresses (value : List Address)
  | profile (value : Option Profile)
  | devices (value : List Device)
  | presence (before after : Bool)
  | communication (value : Option (Address × EndpointKind))
  | lines (value : List String)
  | admission (value : Except DeviceRefusal Bool)
  | audio (value : Except ConnectFailure Unit)
  | outcome (value : Option ConnectOutcome)
  | state (value : Option RouteState)
  | transition (value : Option TransitionId)
  | account (value : Platform)
  | several (values : List Reply)

/-- Setting up the platform services, or asking the audio service directly. -/
inductive PlatformAct where
  | setActive (profile : Profile) (addresses : List Address)
  | reject (address : Address)
  | accept (address : Address)
  | setConnectReply (reply : ScoReply)
  | setScoState (address : Address) (state : ScoState)
  | setInbandRinging (enabled : Bool)
  | setPair (address : Address) (pair : PairId)
  | setGroup (address : Address) (group : GroupId)
  | setInbandGroup (group : GroupId) (enabled : Bool)
  | setAvailable (devices : List CommunicationDevice)
  | setRefusal (refuses : Bool)
  | chooseDevice (device : CommunicationDevice)
  | clearDevice
  | account

inductive EventAct where
  | serviceAttached (profile : Profile)
  | serviceLost (profile : Profile)
  | setInCall (inCall : Bool)
  | event (event : PlatformEvent)
  | rawConnection (profile : UInt32) (device : Device) (state : UInt32)
  | rawSco (address : Address) (state : UInt32)
  | communicationDeviceChanged (device : Option CommunicationDevice)

inductive RegistryAct where
  | attach (profile : Profile)
  | detach (profile : Profile)
  | connect (profile : Profile) (device : Device)
  | disconnect (address : Address) (profile : Profile)
  | setActive (profile : Profile) (address : Option Address)
  | activeDevice (profile : Profile)
  | isConnected (address : Address)
  | profileOf (address : Address)
  | connected
  | uniqueConnected
  | connectTarget (requested : Option Address) (recent : List Address)
  | makeCommunicationDevice (address : Address)
  | communication
  | dump

inductive MachineAct where
  | deviceAdded (device : Device) (profile : Profile)
  | activeDeviceChanged (profile : Profile) (address : Option Address)
  | audioOn (address : Address)
  | history

inductive Act where
  | platform (act : PlatformAct)
  | event (act : EventAct)
  | registry (act : RegistryAct)
  | machine (act : MachineAct)
  | post (message : Message)
  | tryPost (message : Message)

def onPlatform (f : Platform → Platform) (p : Phone) : Reply × Phone :=
  (.nothing, { p with platform := f p.platform })

namespace PlatformAct

def run : PlatformAct → Phone → Reply × Phone
  | setActive profile addresses => onPlatform fun x =>
    { x with adapter := { x.adapter with active := x.adapter.active.set profile addresses } }
  | reject address => onPlatform fun x => { x with adapter := x.adapter.reject address }
  | accept address => onPlatform fun x => { x with adapter := x.adapter.accept address }
  | setConnectReply reply => onPlatform fun x =>
    { x with headset := { x.headset with connectReply := reply } }
  | setScoState address state => onPlatform fun x =>
    { x with headset := { x.headset with states := x.headset.states.set address state } }
  | setInbandRinging enabled => onPlatform fun x =>
    { x with headset := { x.headset with inbandRinging := enabled } }
  | setPair address pair => onPlatform fun x =>
    { x with hearingAid := { x.hearingAid with pairs := x.hearingAid.pairs.set address pair } }
  | setGroup address group => onPlatform fun x =>
    { x with leAudio := { x.leAudio with groups := x.leAudio.groups.set address group } }
  | setInbandGroup group enabled => onPlatform fun x =>
    { x with leAudio := x.leAudio.setInband group enabled }
  | setAvailable devices => onPlatform fun x =>
    { x with audio := { x.audio with available := devices } }
  | setRefusal refuses => onPlatform fun x => { x with audio := { x.audio with refuses } }
  | chooseDevice device => fun p => (p.chooseCommunicationDevice device).map .flag id
  | clearDevice => fun p => (.nothing, p.clearCommunicationDevice)
  | account => fun p => (.account p.platform, p)

end PlatformAct

def onEvent (event : Option PlatformEvent) (p : Phone) : Reply × Phone :=
  match event with
  | some event => (.nothing, p.onPlatformEvent event)
  | none => (.invalid, p)

def EventAct.run : EventAct → Phone → Reply × Phone
  | serviceAttached profile => fun p => (.nothing, p.attach profile)
  | serviceLost profile => fun p => (.nothing, p.onServiceLost profile)
  | setInCall inCall => fun p => (.nothing, { p with dispatcher := { p.dispatcher with inCall } })
  | event e => onEvent (some e)
  | rawConnection profile device state => onEvent (PlatformEvent.connectionOfRaw? profile device state)
  | rawSco address state => onEvent (PlatformEvent.scoOfRaw? address state)
  | communicationDeviceChanged device => fun p => (.nothing, p.onCommunicationDeviceChanged device)

def RegistryAct.run : RegistryAct → Phone → Reply × Phone
  | attach profile => fun p => (.nothing, p.attach profile)
  | detach profile => fun p => (p.detach profile).map .addresses id
  | connect profile device => fun p => (p.addDevice device profile).map .admission id
  | disconnect address profile => fun p => (p.removeDevice address profile).map .flag id
  | setActive profile address => fun p =>
    (p.setActiveDevice profile address).map (fun (before, after) => .presence before after) id
  | activeDevice profile => fun p => (.address (p.registry.active.get profile), p)
  | isConnected address => fun p => (.flag (p.registry.isConnected address), p)
  | profileOf address => fun p => (.profile (p.registry.profileOf address), p)
  | connected => fun p => (.devices p.registry.connected, p)
  | uniqueConnected => fun p => (.devices p.uniqueConnected, p)
  | connectTarget requested recent => fun p =>
    (.address (p.registry.connectTarget requested recent), p)
  | makeCommunicationDevice address => fun p => (p.makeCommunicationDevice address).map .flag id
  | communication => fun p => (.communication p.registry.communication, p)
  | dump => fun p => (.lines p.registry.dump, p)

def MachineAct.run : MachineAct → Phone → Reply × Phone
  | deviceAdded device profile => fun p => (.nothing, p.onDeviceAdded device profile)
  | activeDeviceChanged profile address => fun p => (.nothing, p.onActiveDeviceChanged profile address)
  | audioOn address => fun p => (.nothing, p.onAudioOn address)
  | history => fun p => (.lines (p.machine.history.entries.map HistoryEntry.text), p)

/-- Does it and gives the reply; `tryPost` tells whether the message can still arrive. -/
def Act.run : Act → Phone → Reply × Phone
  | platform act => act.run
  | event act => act.run
  | registry act => act.run
  | machine act => act.run
  | post message => fun p => (.nothing, p.post message)
  | tryPost message => fun p => (.flag !p.closed, p.post message)

end CallAudio.Bench

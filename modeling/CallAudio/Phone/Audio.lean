import CallAudio.Job

/-! Moving call audio onto a device and off it, and finding out where it is. -/
namespace CallAudio.Phone

def activate (address : Address) (use : ActiveUse) (p : Phone) : Bool × Phone :=
  let (accepted, adapter) := p.platform.adapter.activate address use
  (accepted, { p with platform := { p.platform with adapter } })

def connectSco (p : Phone) : ScoReply × Phone :=
  let (reply, headset) := p.platform.headset.connect
  (reply, { p with platform := { p.platform with headset } })

def disconnectSco (p : Phone) : Phone :=
  { p with platform := { p.platform with headset := p.platform.headset.disconnect } }

/-- Once audio is requested the device also becomes the communication device, if it can, except when
audio is switched from another device. -/
def finishConnect (address : Address) (switching : Bool) : Job (Except ConnectFailure Unit) := do
  Job.update fun p => if switching then p else (p.makeCommunicationDevice address).2
  return .ok ()

/-- Requests call audio for a device over the profile it is operated through. -/
def connectAudio (address : Address) (switching : Bool) : Job (Except ConnectFailure Unit) := do
  Job.update (record (.audioRequested address))
  match (← Job.read).registry.profileOf address with
  | none => return .error .noSuchDevice
  | some .classicHeadset =>
    if ← Job.awaitHeadset then
      if ← Job.change (activate address .phoneCall) then
        let reply ← Job.change connectSco
        if reply.isAccepted then finishConnect address switching
        else return .error (.scoRejected reply)
      else return .error .activeDeviceRejected
    else return .error (.serviceUnavailable .classicHeadset)
  | some _ =>
    if ← Job.change (activate address .all) then finishConnect address switching
    else return .error .activeDeviceRejected

/-- Forgets the communication device that was chosen; without an audio link nothing else would
report the loss, so it is posted here. -/
def releaseCommunicationDevice (p : Phone) : Phone :=
  match p.registry.communication with
  | none => p
  | some (address, kind) =>
    let registry := { p.registry with communication := none }
    let cleared := { p with registry }.clearCommunicationDevice
    if kind = .bluetoothSco then cleared else cleared.post (.audioLost (some address))

def disconnectAudio : Job Unit := do
  Job.update (record .audioReleased)
  let attached ← Job.awaitHeadset
  Job.update fun p => (if attached then p.disconnectSco else p).releaseCommunicationDevice

/-- The communication device, if it is connected and active over a profile without an audio link. -/
def communicationCarrier (p : Phone) : Option Address := do
  let device ← p.platform.audio.current
  let address ← device.address
  let profile ← device.kind.profile?
  if profile = .classicHeadset then none
  else if p.registry.active.get profile = some address && p.registry.holds profile address then
    some address
  else none

/-- The device that call audio flows to as the platform sees it. -/
def carryingAudio : Job (Option Address) := do
  match (← Job.read).registry.active.classicHeadset with
  | none => return (← Job.read).communicationCarrier
  | some address =>
    let attached ← Job.awaitHeadset
    let p ← Job.read
    return if attached && p.platform.headset.state address = .connected then some address
      else p.communicationCarrier

/-- Whether the ringtone is played to a device in-band; false if that cannot be told. -/
def ringsInband (address : Address) : Job Bool := do
  let p ← Job.read
  match p.registry.profileOf address with
  | some .leAudio =>
    match p.registry.groups.get? address with
    | some group => return p.registry.bound.leAudio && p.platform.leAudio.inbandGroups.contains group
    | none => return false
  | some .classicHeadset =>
    let attached ← Job.awaitHeadset
    return attached && (← Job.read).platform.headset.inbandRinging
  | _ => return false

end CallAudio.Phone

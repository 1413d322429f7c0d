import CallAudio.Phone.Audio

/-! The route state machine: which device call audio should be on, and what to do to get it there.
-/
namespace CallAudio.Phone

def onDeviceAdded (device : Device) (profile : Profile) (p : Phone) : Phone :=
  let (answer, added) := p.addDevice device profile
  match answer with
  | .ok true => added.tell .deviceListChanged
  | _ => added

/-- Moves to what the platform reports as carrying audio. -/
def moveToActualState : Job Unit := do
  match ← carryingAudio with
  | some address => Job.update (moveTo (.connected address))
  | none => Job.update (moveTo .audioOff)

/-- A profile disconnected a device; losing the live device moves the machine. -/
def onDeviceLost (address : Address) (profile : Profile) : Job Unit := do
  if ← Job.change (removeDevice address profile) then
    Job.update (tell .deviceListChanged)
    unless (← Job.read).registry.isConnected address do
      Job.update fun p => { p with machine := p.machine.unuse address }
      if (← Job.read).machine.state.liveAddress = some address then moveToActualState

/-- The active device of a profile changed; only the first and the last one are told. -/
def onActiveDeviceChanged (profile : Profile) (address : Option Address) (p : Phone) : Phone :=
  let (presence, changed) := p.setActiveDevice profile address
  match presence with
  | (false, true) => changed.tell .activeDevicePresent
  | (true, false) => changed.tell .activeDeviceGone
  | _ => changed

/-- A rejected connect is tried again later, until the retries are used up. -/
def onRejected (target : Address) (attempt : Nat) (failure : ConnectFailure) (p : Phone) : Phone :=
  let noted := p.note (.connectFailed target attempt failure)
  if attempt < maxRetries then noted.scheduleRetry target (attempt + 1)
  else noted.dropRetry.post (.transitionFailed (some target))

/-- Requests audio for a device that is not live, after tearing down any other that is. -/
def startConnect (target : Address) (attempt : Nat) : Job ConnectOutcome := do
  let switching := (← Job.read).machine.state.liveAddress.any (· ≠ target)
  Job.when switching disconnectAudio
  match ← connectAudio target switching with
  | .ok () =>
    Job.update (tell (.audioConnecting target))
    Job.update (moveTo (.connecting target))
    return .started target
  | .error failure =>
    Job.update (onRejected target attempt failure)
    return .rejected target

/-- A connect request; attempt zero is a new one and others are retries. -/
def connect (requested : Option Address) (attempt : Nat) : Job ConnectOutcome := do
  Job.update fun p => if attempt = 0 then p.dropRetry else p
  let p ← Job.read
  match p.registry.connectTarget requested p.machine.recent with
  | none =>
    Job.update (note (.noDevices requested))
    Job.update (post (.transitionFailed requested))
    return .noDevice
  | some target =>
    if p.machine.state = .connected target then
      Job.update (tell (.audioConnected target))
      return .reaffirmed target
    else if p.machine.state = .connecting target then return .alreadyConnecting target
    else startConnect target attempt

/-- A retry is due; it is ignored for the live device and beyond the last attempt. -/
def retryConnect (address : Address) (attempt : Nat) : Job (Option ConnectOutcome) := do
  if (← Job.read).machine.state.liveAddress = some address then return none
  else if maxRetries < attempt then return none
  else return some (← connect (some address) attempt)

/-- Tears audio down; the loss that follows moves the machine. -/
def disconnect : Job Unit := do
  Job.update dropRetry
  Job.update fun p => p.note (.disconnectRequested p.machine.state)
  disconnectAudio

/-- Audio did not come up in time; only the device being connected matters. -/
def onConnectionTimeout (address : Address) : Job Unit := do
  if (← Job.read).machine.state = .connecting address then
    Job.update (note (.timedOut address))
    moveToActualState

/-- Audio came up on a device, which is trusted if it is live or connected. -/
def onAudioOn (address : Address) (p : Phone) : Phone :=
  if p.machine.state.liveAddress = some address ∨ p.registry.isConnected address then
    p.moveTo (.connected address)
  else p

/-- Audio went down; the loss of a device that is not live is only reported. -/
def onAudioLost (address : Option Address) : Job Unit := do
  let state := (← Job.read).machine.state
  match address with
  | none => moveToActualState
  | some lost =>
    if state.liveAddress = some lost then moveToActualState
    else
      Job.update (note (.unexpectedLoss lost state))
      Job.update (tell .unexpectedStateChange)

end CallAudio.Phone

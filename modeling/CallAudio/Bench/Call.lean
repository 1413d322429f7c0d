import CallAudio.Bench.Act

/-! Calls from outside that may wait for the headset service. -/
namespace CallAudio.Bench

inductive Call where
  | connectAudio (address : Address) (switching : Bool)
  | disconnectAudio
  | carryingAudio
  | ringsInband (address : Address)
  | deviceLost (address : Address) (profile : Profile)
  | connect (requested : Option Address) (attempt : Nat)
  | retryConnect (address : Address) (attempt : Nat)
  | disconnect
  | connectionTimeout (address : Address)
  | audioLost (address : Option Address)

def Call.job : Call → Job Reply
  | connectAudio address switching => return .audio (← Phone.connectAudio address switching)
  | disconnectAudio => do Phone.disconnectAudio; return .nothing
  | carryingAudio => return .address (← Phone.carryingAudio)
  | ringsInband address => return .flag (← Phone.ringsInband address)
  | deviceLost address profile => do Phone.onDeviceLost address profile; return .nothing
  | connect requested attempt => return .outcome (some (← Phone.connect requested attempt))
  | retryConnect address attempt => return .outcome (← Phone.retryConnect address attempt)
  | disconnect => do Phone.disconnect; return .nothing
  | connectionTimeout address => do Phone.onConnectionTimeout address; return .nothing
  | audioLost address => do Phone.onAudioLost address; return .nothing

end CallAudio.Bench

import CallAudio.Address

/-! Where Bluetooth call audio is. -/
namespace CallAudio

inductive RouteState
  | audioOff
  | connecting (address : Address)
  | connected (address : Address)
deriving DecidableEq, Repr

namespace RouteState

/-- The device that carries audio or is about to. -/
def liveAddress : RouteState → Option Address
  | audioOff => none
  | connecting address | connected address => some address

def isLive (s : RouteState) : Bool := s ≠ audioOff

def text : RouteState → String
  | audioOff => "AudioOff"
  | connecting address => "Connecting(" ++ address.redacted ++ ")"
  | connected address => "Connected(" ++ address.redacted ++ ")"

end RouteState
end CallAudio

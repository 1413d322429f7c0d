import CallAudio.Endpoint

/-! The vocabulary of route transitions: the signals that confirm them and the actions they need. -/
namespace CallAudio

inductive Signal
  | bluetoothAudioConnected
  | bluetoothAudioDisconnected
  | communicationDeviceChanged
  | speakerOn
  | speakerOff
deriving DecidableEq, Repr

def Signal.name : Signal → String
  | bluetoothAudioConnected => "BluetoothAudioConnected"
  | bluetoothAudioDisconnected => "BluetoothAudioDisconnected"
  | communicationDeviceChanged => "CommunicationDeviceChanged"
  | speakerOn => "SpeakerOn"
  | speakerOff => "SpeakerOff"

structure ConfirmationToken where
  signal : Signal
  address : Option Address
deriving DecidableEq, Repr

namespace ConfirmationToken

/-- An expected token without an address takes the signal from any device. -/
def isSatisfiedBy (expected observed : ConfirmationToken) : Bool :=
  expected.signal = observed.signal && (expected.address.isNone || expected.address = observed.address)

def description (t : ConfirmationToken) : String :=
  "ConfirmationToken \x7b signal: " ++ t.signal.name ++ ", address: " ++
    Text.optional Address.redacted t.address ++ " \x7d"

end ConfirmationToken

/-- The number of a transition; numbers wrap around after the largest. -/
structure TransitionId where
  value : UInt64
deriving DecidableEq, Repr

namespace TransitionId

def next (id : TransitionId) : TransitionId := ⟨id.value + 1⟩

def description (id : TransitionId) : String := "TransitionId(" ++ Nat.repr id.value.toNat ++ ")"

end TransitionId

/-- An observed token; one without a transition is meant for whichever is pending. -/
structure Confirmation where
  transition : Option TransitionId := none
  token : ConfirmationToken
deriving DecidableEq, Repr

inductive RouteAction
  | connectBluetooth (address : Option Address)
  | disconnectBluetooth
  | setCommunicationDevice (kind : EndpointKind)
  | clearCommunicationDevice
deriving DecidableEq, Repr

end CallAudio

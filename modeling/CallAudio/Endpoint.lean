import CallAudio.Device
import CallAudio.Text

/-! What call audio can be sent to: the kinds of endpoint, and the routes and communication devices
made of them. -/
namespace CallAudio

inductive EndpointKind
  | earpiece
  | speaker
  | wiredHeadset
  | dock
  | bluetoothSco
  | hearingAid
  | bleHeadset
deriving DecidableEq, Repr

namespace EndpointKind

def name : EndpointKind → String
  | earpiece => "Earpiece"
  | speaker => "Speaker"
  | wiredHeadset => "WiredHeadset"
  | dock => "Dock"
  | bluetoothSco => "BluetoothSco"
  | hearingAid => "HearingAid"
  | bleHeadset => "BleHeadset"

def profile? : EndpointKind → Option Profile
  | bluetoothSco => some .classicHeadset
  | hearingAid => some .hearingAid
  | bleHeadset => some .leAudio
  | _ => none

/-- The kind under which the audio service offers the devices of a profile. -/
def ofProfile : Profile → EndpointKind
  | .classicHeadset => bluetoothSco
  | .hearingAid => hearingAid
  | .leAudio => bleHeadset

end EndpointKind

/-- A logical audio destination; a Bluetooth route without an address leaves the choice of device
open. -/
structure AudioRoute where
  kind : EndpointKind
  address : Option Address := none
deriving DecidableEq, Repr

namespace AudioRoute

def isBluetooth (r : AudioRoute) : Bool := r.kind.profile?.isSome

def text (r : AudioRoute) : String :=
  match r.address with
  | some address => r.kind.name ++ "(" ++ address.redacted ++ ")"
  | none => r.kind.name

end AudioRoute

/-- A device offered by the audio service, with the service's own number for it. -/
structure CommunicationDevice where
  id : UInt32
  kind : EndpointKind
  address : Option Address
deriving DecidableEq, Repr

end CallAudio

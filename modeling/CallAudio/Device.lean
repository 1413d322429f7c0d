import CallAudio.Address

/-! The audio profiles a device can be connected over, and the devices themselves. -/
namespace CallAudio

inductive Profile
  | classicHeadset
  | hearingAid
  | leAudio
deriving DecidableEq, Repr

namespace Profile

/-- The number the platform gives a profile in its broadcasts. -/
def raw : Profile → UInt32
  | classicHeadset => 1
  | hearingAid => 21
  | leAudio => 22

def ofRaw? (n : UInt32) : Option Profile :=
  if n = 1 then some classicHeadset
  else if n = 21 then some hearingAid
  else if n = 22 then some leAudio
  else none

def label : Profile → String
  | classicHeadset => "HFP"
  | hearingAid => "HA"
  | leAudio => "LE"

def name : Profile → String
  | classicHeadset => "ClassicHeadset"
  | hearingAid => "HearingAid"
  | leAudio => "LeAudio"

end Profile

structure PerProfile (α : Type) where
  classicHeadset : α
  hearingAid : α
  leAudio : α
deriving DecidableEq, Repr

namespace PerProfile

def uniform {α : Type} (x : α) : PerProfile α := ⟨x, x, x⟩

def get {α : Type} (m : PerProfile α) : Profile → α
  | .classicHeadset => m.classicHeadset
  | .hearingAid => m.hearingAid
  | .leAudio => m.leAudio

def set {α : Type} (m : PerProfile α) (profile : Profile) (x : α) : PerProfile α :=
  match profile with
  | .classicHeadset => { m with classicHeadset := x }
  | .hearingAid => { m with hearingAid := x }
  | .leAudio => { m with leAudio := x }

@[simp] theorem get_uniform {α : Type} (x : α) (p : Profile) : (uniform x).get p = x := by
  cases p <;> rfl

theorem get_set {α : Type} (m : PerProfile α) (p q : Profile) (x : α) :
    (m.set p x).get q = if q = p then x else m.get q := by
  cases p <;> cases q <;> rfl

end PerProfile

/-- Wearables pick up call audio only when nothing else is around. -/
inductive DeviceClass
  | audioSink
  | wearable
deriving DecidableEq, Repr, Inhabited

def DeviceClass.name : DeviceClass → String
  | audioSink => "AudioSink"
  | wearable => "Wearable"

structure Device where
  address : Address
  kind : DeviceClass := .audioSink
deriving DecidableEq, Repr

namespace Device

def isWearable (d : Device) : Bool := d.kind = .wearable

def description (d : Device) : String :=
  "Device \x7b address: " ++ d.address.redacted ++ ", class: " ++ d.kind.name ++ " \x7d"

end Device

/-- The coordinated set an LE Audio device belongs to. -/
structure GroupId where
  value : Int32
deriving DecidableEq, Repr

/-- The number shared by the two halves of a hearing aid pair. -/
structure PairId where
  value : UInt64
deriving DecidableEq, Repr

end CallAudio

import CallAudio.Endpoint
import CallAudio.Table

/-! The accessories connected over each profile, the device each profile reports active, the sets
that devices belong to, and which profile services are attached. -/
namespace CallAudio

/-- Why a newly connected device is not taken in. -/
inductive DeviceRefusal
  | serviceUnavailable (profile : Profile)
  | emptyAddress
deriving DecidableEq, Repr

def DeviceRefusal.name : DeviceRefusal → String
  | serviceUnavailable profile => "ServiceUnavailable(" ++ profile.name ++ ")"
  | emptyAddress => "EmptyAddress"

inductive SetKey
  | pair (id : PairId)
  | group (id : GroupId)
deriving DecidableEq, Repr

structure SetMembership where
  pairOf : Address → Option PairId
  groupOf : Address → Option GroupId

structure Registry where
  devices : PerProfile (List Device) := .uniform []
  active : PerProfile (Option Address) := .uniform none
  pairs : Table Address PairId := []
  groups : Table Address GroupId := []
  communication : Option (Address × EndpointKind) := none
  bound : PerProfile Bool := .uniform false
deriving DecidableEq, Repr

namespace Registry

/-- The order in which a device known under several profiles is operated. -/
def connectPriority : List Profile := [.leAudio, .hearingAid, .classicHeadset]

/-- The order in which the active devices are trusted as the target of a connect. -/
def activePriority : List Profile := [.classicHeadset, .hearingAid, .leAudio]

def listingOrder : List Profile := [.classicHeadset, .hearingAid, .leAudio]

def holds (r : Registry) (profile : Profile) (address : Address) : Bool :=
  (r.devices.get profile).any fun d => d.address = address

def profileOf (r : Registry) (address : Address) : Option Profile :=
  connectPriority.find? fun profile => r.holds profile address

def isConnected (r : Registry) (address : Address) : Bool := (r.profileOf address).isSome

def attach (r : Registry) (profile : Profile) : Registry :=
  { r with bound := r.bound.set profile true }

/-- Detaches a profile service; its devices stay listed and are returned, to be reported lost. -/
def detach (r : Registry) (profile : Profile) : List Address × Registry :=
  ((r.devices.get profile).map Device.address, { r with bound := r.bound.set profile false })

/-- The set a new device joins: the one already stored, else what the LE Audio service says, which
is also asked about classic headsets as they may have an LE side. -/
def groupFor (r : Registry) (membership : SetMembership) (address : Address) (profile : Profile) :
    Option GroupId :=
  match r.groups.get? address with
  | some group => some group
  | none => match profile with
    | .hearingAid => none
    | _ => if r.bound.leAudio then membership.groupOf address else none

def pairFor (r : Registry) (membership : SetMembership) (address : Address) (profile : Profile) :
    Option PairId :=
  if profile = .hearingAid ∧ r.bound.hearingAid then membership.pairOf address else none

/-- Takes a device in under a profile; false if it was there already. -/
def connect (r : Registry) (membership : SetMembership) (device : Device) (profile : Profile) :
    Except DeviceRefusal Bool × Registry :=
  let address := device.address
  if address = Address.empty then (.error .emptyAddress, r)
  else if profile = .leAudio ∧ r.bound.leAudio = false then (.error (.serviceUnavailable profile), r)
  else if r.holds profile address then (.ok false, r)
  else
    (.ok true,
      { r with
        devices := r.devices.set profile (r.devices.get profile ++ [device])
        groups := match r.groupFor membership address profile with
          | some group => r.groups.set address group
          | none => r.groups
        pairs := match r.pairFor membership address profile with
          | some pair => r.pairs.set address pair
          | none => r.pairs })

/-- Forgets what is stored about a device that is no longer connected over any profile. -/
def forget (r : Registry) (address : Address) : Registry :=
  { r with
    groups := r.groups.erase address
    pairs := r.pairs.erase address
    communication := r.communication.filter fun c => c.1 ≠ address }

/-- Removes a device from a profile; false if it was not there. -/
def disconnect (r : Registry) (address : Address) (profile : Profile) : Bool × Registry :=
  if r.holds profile address then
    let others := (r.devices.get profile).filter fun d => d.address ≠ address
    let left :=
      { r with
        devices := r.devices.set profile others
        active := if r.active.get profile = some address then r.active.set profile none else r.active }
    (true, if left.isConnected address then left else left.forget address)
  else (false, r)

def hasActive (r : Registry) : Bool := listingOrder.any fun profile => (r.active.get profile).isSome

/-- Stores the active device of a profile; tells whether any profile had one before, and has one
after. -/
def setActive (r : Registry) (profile : Profile) (address : Option Address) :
    (Bool × Bool) × Registry :=
  let changed := { r with active := r.active.set profile address }
  ((r.hasActive, changed.hasActive), changed)

/-- The devices listed so far and the sets represented by classic headsets among them. -/
structure Listing where
  devices : List Device := []
  headsetGroups : List GroupId := []

/-- Lists one more device, unless its address is listed or a headset of its set is. -/
def Listing.add (r : Registry) (listing : Listing) (entry : Profile × Device) : Listing :=
  let (profile, device) := entry
  if listing.devices.any fun d => d.address = device.address then listing
  else
    let group := r.groups.get? device.address
    match profile with
    | .classicHeadset => ⟨listing.devices ++ [device], listing.headsetGroups ++ group.toList⟩
    | .hearingAid => { listing with devices := listing.devices ++ [device] }
    | .leAudio =>
      if group.any listing.headsetGroups.contains then listing
      else { listing with devices := listing.devices ++ [device] }

/-- The devices of all profiles, each once; an LE Audio device gives way to a headset of its set. -/
def connected (r : Registry) : List Device :=
  let entries := listingOrder.flatMap fun profile => (r.devices.get profile).map (profile, ·)
  (entries.foldl (Listing.add r) {}).devices

def setKey (r : Registry) (address : Address) : Option SetKey :=
  match r.profileOf address with
  | some .hearingAid => (r.pairs.get? address).map .pair
  | some .leAudio => (r.groups.get? address).map .group
  | _ => none

/-- The accessories found so far, and at which position each set stands. -/
structure Accessories where
  devices : List Device := []
  places : Table SetKey Nat := []

/-- Adds a device; within a set, one that is active replaces the one that stands for the set. -/
def Accessories.add (r : Registry) (activeHearingAids activeLe : List Address) (found : Accessories)
    (device : Device) : Accessories :=
  match r.setKey device.address with
  | none => { found with devices := found.devices ++ [device] }
  | some key =>
    let active := match key with
      | .pair _ => activeHearingAids
      | .group _ => activeLe
    match found.places.get? key with
    | none => ⟨found.devices ++ [device], found.places.set key found.devices.length⟩
    | some place =>
      if active.contains device.address then { found with devices := found.devices.set place device }
      else found

/-- The connected devices with every set collapsed to one, preferring the active member. -/
def uniqueConnected (r : Registry) (activeHearingAids activeLe : List Address) : List Device :=
  (r.connected.foldl (Accessories.add r activeHearingAids activeLe) {}).devices

/-- The device a connect goes to: the requested one if it is connected, else an active one, else the
most recently used, else any that is not a wearable, else any. -/
def connectTarget (r : Registry) (requested : Option Address) (recent : List Address) :
    Option Address :=
  let active := (activePriority.filterMap r.active.get).find? r.isConnected
  let used := recent.reverse.find? r.isConnected
  let listed := r.connected
  let anyone := (listed.find? fun d => !d.isWearable).or listed.head?
  (requested.filter r.isConnected).or (active.or (used.or (anyone.map Device.address)))

def dump (r : Registry) : List String :=
  let profileLine (profile : Profile) : String :=
    profile.label ++ ": " ++ Text.listed (fun d => d.address.redacted) (r.devices.get profile) ++
      " active " ++ Text.optional Address.redacted (r.active.get profile)
  listingOrder.map profileLine ++
    ["communication device: " ++
      Text.optional (Text.paired Address.redacted EndpointKind.name) r.communication]

end Registry
end CallAudio

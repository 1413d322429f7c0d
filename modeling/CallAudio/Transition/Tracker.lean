import CallAudio.Transition.Basic

/-! The one transition in flight. It ends when every token it planned was observed, or with a
failure; a new transition takes its place. -/
namespace CallAudio

inductive TransitionOutcome
  | resolved (id : TransitionId) (destination : AudioRoute)
  | fallBackToBaseline (exclude : Option Address)
deriving DecidableEq, Repr

structure PendingTransition where
  id : TransitionId
  origin : AudioRoute
  destination : AudioRoute
  destinationActive : Bool
  outstanding : List ConfirmationToken
  communicationKind : Option EndpointKind
deriving DecidableEq, Repr

structure TransitionTracker where
  nextId : TransitionId := ⟨0⟩
  pending : Option PendingTransition := none
  active : Bool := false
deriving DecidableEq, Repr

structure TransitionPlan where
  actions : List RouteAction := []
  tokens : List ConfirmationToken := []
  communicationKind : Option EndpointKind := none
deriving DecidableEq, Repr

namespace TransitionPlan

/-- What it takes to leave an active origin for another endpoint. -/
def leaving (origin destination : AudioRoute) (destinationActive : Bool) : TransitionPlan :=
  let speaker : List ConfirmationToken :=
    if origin.kind = .speaker ∧ destination.kind ≠ .speaker then [⟨.speakerOff, none⟩] else []
  let drops := origin.isBluetooth && !(destinationActive && destination.isBluetooth)
  { actions := (if drops then [.disconnectBluetooth] else []) ++
      (if destinationActive then [] else [.clearCommunicationDevice])
    tokens := speaker ++ (if drops then [⟨.bluetoothAudioDisconnected, origin.address⟩] else []) }

/-- What it takes to enter an active destination. -/
def entering (destination : AudioRoute) : TransitionPlan :=
  if destination.isBluetooth then
    { actions := [.connectBluetooth destination.address]
      tokens := [⟨.bluetoothAudioConnected, destination.address⟩,
        ⟨.communicationDeviceChanged, destination.address⟩]
      communicationKind := some destination.kind }
  else
    { actions := [.setCommunicationDevice destination.kind]
      tokens := if destination.kind = .speaker then [⟨.speakerOn, none⟩] else []
      communicationKind := some destination.kind }

/-- The plan between two routes, given whether the origin carries audio now. -/
def between (active : Bool) (origin destination : AudioRoute) (destinationActive : Bool) :
    TransitionPlan :=
  let leaves := active && origin ≠ destination
  let enters := destinationActive && !(origin = destination && active)
  let leave := if leaves then leaving origin destination destinationActive else {}
  let enter := if enters then entering destination else {}
  { actions := leave.actions ++ enter.actions
    tokens := leave.tokens ++ enter.tokens
    communicationKind := enter.communicationKind }

end TransitionPlan

/-- Removes the element at a position by moving the last one there. -/
def swapErase {α : Type} (items : List α) (i : Nat) : List α :=
  match items.getLast? with
  | none => []
  | some z => (items.set i z).dropLast

namespace TransitionTracker

/-- Starts a transition instead of any pending one. -/
def begin (t : TransitionTracker) (origin destination : AudioRoute) (destinationActive : Bool) :
    TransitionId × List RouteAction × TransitionTracker :=
  let plan := TransitionPlan.between t.active origin destination destinationActive
  (t.nextId, plan.actions,
    { t with
      nextId := t.nextId.next
      pending := some
        { id := t.nextId, origin, destination, destinationActive
          outstanding := plan.tokens
          communicationKind := plan.communicationKind } })

/-- Resolves the pending transition if it waits for nothing more. -/
def settle (t : TransitionTracker) : Option TransitionOutcome × TransitionTracker :=
  match t.pending with
  | some p =>
    if p.outstanding.isEmpty then
      (some (.resolved p.id p.destination), { t with pending := none, active := p.destinationActive })
    else (none, t)
  | none => (none, t)

/-- Takes an observed token off the pending transition, unless it is tagged with another one. -/
def confirm (t : TransitionTracker) (c : Confirmation) :
    Option TransitionOutcome × TransitionTracker :=
  match t.pending with
  | none => (none, t)
  | some p =>
    if c.transition.any (· ≠ p.id) then (none, t)
    else match p.outstanding.findIdx? (·.isSatisfiedBy c.token) with
      | none => (none, t)
      | some i =>
        settle { t with pending := some { p with outstanding := swapErase p.outstanding i } }

/-- Gives the pending transition up; without a device at fault its own destination is to be
avoided. -/
def fail (t : TransitionTracker) (failed : Option Address) :
    Option TransitionOutcome × TransitionTracker :=
  match t.pending with
  | none => (none, t)
  | some p =>
    (some (.fallBackToBaseline (failed.or p.destination.address)), { t with pending := none })

/-- The deadline of a transition passed; it matters only while that transition is pending. -/
def timeOut (t : TransitionTracker) (id : TransitionId) :
    Option TransitionOutcome × TransitionTracker :=
  match t.pending with
  | none => (none, t)
  | some p => if p.id = id then t.fail none else (none, t)

/-- Whether the pending transition still waits for a token that the observed one satisfies. -/
def isAwaiting (t : TransitionTracker) (observed : ConfirmationToken) : Bool :=
  t.pending.any fun p => p.outstanding.any (·.isSatisfiedBy observed)

def abandon (t : TransitionTracker) : Option PendingTransition × TransitionTracker :=
  (t.pending, { t with pending := none })

end TransitionTracker
end CallAudio

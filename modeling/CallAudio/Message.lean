import CallAudio.RouteState
import CallAudio.Transition.Basic

/-! The messages of the route thread, the questions among them, and the answers. -/
namespace CallAudio

/-- The number under which an answer is awaited. -/
abbrev Ticket := Nat

inductive Query
  | connectedOrPending
  | state
  | dump
  | sync
deriving DecidableEq, Repr

inductive Message
  | deviceAdded (device : Device) (profile : Profile)
  | deviceLost (address : Address) (profile : Profile)
  | activeDeviceChanged (profile : Profile) (address : Option Address)
  | connect (address : Option Address)
  | retryConnect (address : Address) (attempt : Nat)
  | disconnect
  | connectionTimeout (address : Address)
  | audioOn (address : Address)
  | audioLost (address : Option Address)
  | beginTransition (origin destination : AudioRoute) (destinationActive : Bool) (ticket : Ticket)
  | confirmation (confirmation : Confirmation)
  | transitionFailed (address : Option Address)
  | transitionTimeout (id : TransitionId)
  | switchToBaseline (exclude : Option Address)
  | query (question : Query) (ticket : Ticket)
deriving DecidableEq, Repr

inductive Answer
  | begun (id : TransitionId)
  | flag (value : Bool)
  | state (value : RouteState)
  | lines (value : List String)
  | done
deriving DecidableEq, Repr

end CallAudio

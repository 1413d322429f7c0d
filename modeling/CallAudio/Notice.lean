import CallAudio.Message

/-! What the listeners are told, and the journal of what the route thread did. -/
namespace CallAudio

inductive RouteEvent
  | deviceListChanged
  | activeDevicePresent
  | activeDeviceGone
  | audioConnecting (address : Address)
  | audioConnected (address : Address)
  | audioDisconnected
  | unexpectedStateChange
deriving DecidableEq, Repr

inductive TransitionEvent
  | routeActive (route : AudioRoute)
  | switchToBaseline (exclude : Option Address)
deriving DecidableEq, Repr

/-- One thing that the route thread, or a caller of the audio operations, did. -/
inductive Happening
  | handled (message : Message)
  | told (event : RouteEvent)
  | announced (event : TransitionEvent)
  | audioRequested (address : Address)
  | audioReleased
  | begun (id : TransitionId) (actions : List RouteAction)
  | performed (action : RouteAction)
deriving DecidableEq, Repr

/-- A happening with the route state at that moment. -/
structure JournalEntry where
  happening : Happening
  state : RouteState
deriving DecidableEq, Repr

end CallAudio

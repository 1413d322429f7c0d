import CallAudio.Transition.Tracker

/-! The operations of the transition tracker as steps, so that histories of them can be spoken of.
-/
namespace CallAudio

inductive TrackerStep
  | begin (origin destination : AudioRoute) (destinationActive : Bool)
  | settle
  | confirm (confirmation : Confirmation)
  | fail (address : Option Address)
  | timeOut (id : TransitionId)
  | isAwaiting (token : ConfirmationToken)
  | abandon
deriving DecidableEq, Repr

inductive TrackerReply
  | begun (id : TransitionId) (actions : List RouteAction)
  | outcome (value : Option TransitionOutcome)
  | flag (value : Bool)
  | abandoned (id : Option TransitionId)
deriving DecidableEq, Repr

namespace TrackerStep

def run (t : TransitionTracker) : TrackerStep → TrackerReply × TransitionTracker
  | begin origin destination destinationActive =>
    let (id, actions, t) := t.begin origin destination destinationActive
    (.begun id actions, t)
  | settle => t.settle.map .outcome id
  | confirm c => (t.confirm c).map .outcome id
  | fail address => (t.fail address).map .outcome id
  | timeOut transition => (t.timeOut transition).map .outcome id
  | isAwaiting token => (.flag (t.isAwaiting token), t)
  | abandon => t.abandon.map (fun p => .abandoned (p.map PendingTransition.id)) id

/-- The replies to a sequence of steps, each with the tracker after it. -/
def runAll (t : TransitionTracker) : List TrackerStep → List (TrackerReply × TransitionTracker)
  | [] => []
  | step :: rest =>
    let (reply, t) := step.run t
    (reply, t) :: runAll t rest

end TrackerStep
end CallAudio

import CallAudio.Phone.Machine

/-! The route thread's handling of messages, which keeps the state machine and the transition in
step. -/
namespace CallAudio.Phone

def report (outcome : Option TransitionOutcome) (p : Phone) : Phone :=
  match outcome with
  | some (.resolved _ destination) => p.announce (.routeActive destination)
  | some (.fallBackToBaseline exclude) => p.announce (.switchToBaseline exclude)
  | none => p

def track (f : TransitionTracker → Option TransitionOutcome × TransitionTracker) (p : Phone) : Phone :=
  let (outcome, tracker) := f p.tracker
  { p with tracker }.report outcome

def confirm (signal : Signal) (address : Address) (p : Phone) : Phone :=
  match p.tracker.pending with
  | none => p
  | some pending =>
    p.track fun t => t.confirm ⟨some pending.id, signal, some address⟩

/-- A device that already carries audio gives no new signals, so they are taken from what holds
now. -/
def onConnectOutcome (outcome : ConnectOutcome) (p : Phone) : Phone :=
  match outcome with
  | .reaffirmed address =>
    let confirmed := p.confirm .bluetoothAudioConnected address
    if confirmed.registry.communication.any fun c => c.1 = address then
      confirmed.confirm .communicationDeviceChanged address
    else confirmed
  | _ => p

def confirmLeft (before : RouteState) (p : Phone) : Phone :=
  match before with
  | .connected address => p.confirm .bluetoothAudioDisconnected address
  | _ => p

def confirmEntered (after : RouteState) (p : Phone) : Phone :=
  match after with
  | .connected address => p.confirm .bluetoothAudioConnected address
  | _ => p

/-- Audio that ends up anywhere but on the device being connected fails a transition waiting for
it. -/
def failAttempted (before after : RouteState) (p : Phone) : Phone :=
  match before with
  | .connecting attempted =>
    let awaited : ConfirmationToken := ⟨.bluetoothAudioConnected, some attempted⟩
    if after ≠ .connected attempted ∧ p.tracker.isAwaiting awaited then
      p.track fun t => t.fail (some attempted)
    else p
  | _ => p

/-- What a change of the machine's state means for the pending transition. -/
def onStateChanged (before : RouteState) (p : Phone) : Phone :=
  let after := p.machine.state
  if before = after then p
  else ((p.confirmLeft before).confirmEntered after).failAttempted before after

/-- A deadline lives only as long as its transition. -/
def clearStaleDeadline (p : Phone) : Phone :=
  if p.tracker.pending.isNone then p.dropDeadline else p

/-- Asks the audio service for the first device of a kind; a refusal fails the transition. -/
def setCommunicationKind (kind : EndpointKind) (p : Phone) : Phone :=
  let (accepted, asked) := match p.platform.audio.available.find? fun d => d.kind = kind with
    | some device => p.chooseCommunicationDevice device
    | none => (false, p)
  if accepted then asked else asked.track fun t => t.fail none

/-- Carries an action out. It counts as performed before what came of it is reported. -/
def perform (action : RouteAction) : Job Unit := do
  let performed := Job.update (record (.performed action))
  match action with
  | .connectBluetooth address => do
    let outcome ← connect address 0
    performed
    Job.update (onConnectOutcome outcome)
  | .disconnectBluetooth => do
    disconnect
    performed
  | .setCommunicationDevice kind => do
    performed
    Job.update (setCommunicationKind kind)
  | .clearCommunicationDevice => do
    Job.update clearCommunicationDevice
    performed

/-- Performs actions in order, each followed by what its change of state means. -/
def performAll : List RouteAction → Job Unit
  | [] => return ()
  | action :: rest => do
    let before := (← Job.read).machine.state
    perform action
    Job.update (onStateChanged before)
    performAll rest

/-- Starts a transition: its deadline, its actions, and its end if it waits for nothing. -/
def beginTransition (origin destination : AudioRoute) (destinationActive : Bool) :
    Job TransitionId := do
  let (id, actions) ← Job.change fun p =>
    let (id, actions, tracker) := p.tracker.begin origin destination destinationActive
    ((id, actions), { p with tracker }.record (.begun id actions))
  Job.update (startDeadline id)
  performAll actions
  Job.update (track TransitionTracker.settle)
  return id

def dump (p : Phone) : List String :=
  let transition := match p.tracker.pending with
    | some t =>
      "pending transition " ++ t.id.description ++ ": " ++ t.origin.text ++ " -> " ++
        t.destination.text ++ ", awaiting " ++ Text.listed ConfirmationToken.description t.outstanding
    | none => "no pending transition, active=" ++ (if p.tracker.active then "true" else "false")
  ["state: " ++ p.machine.state.text, transition,
    "most recently used: " ++ Text.listed Address.redacted p.machine.recent] ++
    p.registry.dump ++ ["history:"] ++ p.machine.history.entries.map HistoryEntry.text

def reply (p : Phone) : Query → Answer
  | .connectedOrPending => .flag p.machine.state.isLive
  | .state => .state p.machine.state
  | .dump => .lines p.dump
  | .sync => .done

def act : Message → Job Unit
  | .deviceAdded device profile => Job.update (onDeviceAdded device profile)
  | .deviceLost address profile => onDeviceLost address profile
  | .activeDeviceChanged profile address => Job.update (onActiveDeviceChanged profile address)
  | .connect address => do
    let outcome ← connect address 0
    Job.update (onConnectOutcome outcome)
  | .retryConnect address attempt => do
    if let some outcome ← retryConnect address attempt then Job.update (onConnectOutcome outcome)
  | .disconnect => disconnect
  | .connectionTimeout address => onConnectionTimeout address
  | .audioOn address => Job.update (onAudioOn address)
  | .audioLost address => onAudioLost address
  | .beginTransition origin destination destinationActive ticket => do
    let id ← beginTransition origin destination destinationActive
    Job.update (answer ticket (.begun id))
  | .confirmation c => Job.update (track fun t => t.confirm c)
  | .transitionFailed address => Job.update (track fun t => t.fail address)
  | .transitionTimeout id => Job.update (track fun t => t.timeOut id)
  | .switchToBaseline exclude => Job.update fun p =>
      { p with tracker := p.tracker.abandon.2 }.announce (.switchToBaseline exclude)
  | .query question ticket => Job.update fun p => p.answer ticket (p.reply question)

/-- Handles one message. The actions of a transition account for their own changes of state. -/
def handle (message : Message) : Job Unit := do
  Job.update (record (.handled message))
  let before := (← Job.read).machine.state
  act message
  match message with
  | .beginTransition .. => Job.update clearStaleDeadline
  | _ => Job.update fun p => (p.onStateChanged before).clearStaleDeadline

end CallAudio.Phone

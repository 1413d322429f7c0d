import CallAudio.Proofs.CoordinatorStrides
import CallAudio.Proofs.Transition.Effect

/-! The touches of the route thread: the least changes that it makes to the phone, each with what it
is about. What a message is about bounds all that its handling touches. -/
namespace CallAudio

/-- What touches are about: the services asked for audio, the retry, the state of the machine, the
choice of a communication device beside Bluetooth, and what single messages bring about. -/
inductive Concern
  | services
  | retry
  | state
  | choice
  | arrival (device : Device) (profile : Profile)
  | loss (address : Address) (profile : Profile)
  | absence (address : Address)
  | activity (profile : Profile) (address : Option Address)
  | start (origin destination : AudioRoute) (destinationActive : Bool)
  | baseline (exclude : Option Address)

/-- Happenings that are noted by themselves. All others are noted together with a change. -/
def Happening.isPlain : Happening → Bool
  | .told .activeDevicePresent | .told .activeDeviceGone => false
  | .handled _ | .announced _ | .audioRequested _ | .begun .. => false
  | _ => true

/-- The messages that the thread posts to itself at once. -/
def Message.isReport : Message → Bool
  | .audioLost _ | .transitionFailed _ => true
  | _ => false

inductive Touch (cs : List Concern) (p : Phone) : Phone → Prop
  | recorded (happening : Happening) (h : happening.isPlain = true) :
      Touch cs p (p.record happening)
  | noted (entry : HistoryEntry) : Touch cs p (p.note entry)
  | answered (ticket : Ticket) (value : Answer) : Touch cs p (p.answer ticket value)
  | posted (message : Message) (h : message.isReport = true) : Touch cs p (p.post message)
  | requested (address : Address) (h : .services ∈ cs) :
      Touch cs p (p.record (.audioRequested address))
  | asked (adapter : Adapter) (headset : HeadsetService) (h : .services ∈ cs) :
      Touch cs p { p with platform := { p.platform with adapter, headset } }
  | made (address : Address) (h : .services ∈ cs) :
      Touch cs p (p.makeCommunicationDevice address).2
  | released (h : .services ∈ cs) : Touch cs p p.releaseCommunicationDevice
  | retryDropped (h : .retry ∈ cs) : Touch cs p p.dropRetry
  | rejected (target : Address) (attempt : Nat) (failure : ConnectFailure) (h : .retry ∈ cs) :
      Touch cs p (p.onRejected target attempt failure)
  | moved (target : RouteState) (h : .state ∈ cs) : Touch cs p (p.moveTo target)
  | chosen (kind : EndpointKind) (h : .choice ∈ cs) : Touch cs p (p.setCommunicationKind kind)
  | cleared (h : .choice ∈ cs) : Touch cs p p.clearCommunicationDevice
  | added (device : Device) (profile : Profile) (h : .arrival device profile ∈ cs) :
      Touch cs p (p.onDeviceAdded device profile)
  | removed (address : Address) (profile : Profile) (h : .loss address profile ∈ cs) :
      Touch cs p (p.removeDevice address profile).2
  | unused (address : Address) (h : .absence address ∈ cs) :
      Touch cs p { p with machine := p.machine.unuse address }
  | activated (profile : Profile) (address : Option Address) (h : .activity profile address ∈ cs) :
      Touch cs p (p.onActiveDeviceChanged profile address)
  | begun (origin destination : AudioRoute) (destinationActive : Bool)
      (h : .start origin destination destinationActive ∈ cs) :
      Touch cs p ((p.begun origin destination destinationActive).startDeadline p.tracker.nextId)
  | tracked (f : TransitionTracker → Option TransitionOutcome × TransitionTracker)
      (step : TrackerStep) (hs : step.isBegin = false)
      (hf : ∀ t, TrackerStep.Effect t step (f t).1 (f t).2) : Touch cs p (p.track f)
  | abandoned (exclude : Option Address) (h : .baseline exclude ∈ cs) :
      Touch cs p ({ p with tracker := p.tracker.abandon.2 }.announce (.switchToBaseline exclude))
  | deadlineDropped (h : p.tracker.pending = none) : Touch cs p p.dropDeadline

/-- Touches one after the other. -/
def Touches (cs : List Concern) : Phone → Phone → Prop := Relation.ReflTransGen (Touch cs)

variable {α β : Type} {cs : List Concern} {p q r : Phone}

namespace Touches

theorem refl : Touches cs p p := Relation.ReflTransGen.refl

theorem trans (h : Touches cs p q) (h' : Touches cs q r) : Touches cs p r :=
  Relation.ReflTransGen.trans h h'

theorem single (h : Touch cs p q) : Touches cs p q := Relation.ReflTransGen.single h

/-- What every touch keeps, touches keep. -/
theorem keeps {P : Phone → Prop} (h : Touches cs p q) (hP : ∀ p q, Touch cs p q → P p → P q)
    (hp : P p) : P q := by
  induction h with
  | refl => exact hp
  | tail _ touch ih => exact hP _ _ touch ih

end Touches

/-- All that the step does up to its end are touches, wherever it goes on from after a wait. -/
def Step.Does (cs : List Concern) (p : Phone) : Step α → Prop
  | .done _ q => Touches cs p q
  | .wait q resume => Touches cs p q ∧ ∀ attached r, (resume attached r).Does cs r

theorem Step.Does.after {s : Step α} (h : Touches cs p q) (hs : s.Does cs q) : s.Does cs p := by
  cases s with
  | done value r => exact h.trans hs
  | wait r resume => exact ⟨h.trans hs.1, hs.2⟩

theorem Step.Does.bind {s : Step α} {next : α → Job β} (h : s.Does cs p)
    (hn : ∀ value q, (next value q).Does cs q) : (s.bind next).Does cs p := by
  induction s generalizing p with
  | done value q => exact Step.Does.after h (hn value q)
  | wait q resume ih => exact ⟨h.1, fun attached r => ih _ _ (h.2 attached r)⟩

def Job.Does (cs : List Concern) (job : Job α) : Prop := ∀ p, (job p).Does cs p

namespace Job

theorem does_pure (value : α) : (pure value : Job α).Does cs := fun _ => .refl

theorem does_read : Job.read.Does cs := fun _ => .refl

theorem does_update {f : Phone → Phone} (h : ∀ p, Touches cs p (f p)) : (Job.update f).Does cs := h

theorem does_touch {f : Phone → Phone} (h : ∀ p, Touch cs p (f p)) : (Job.update f).Does cs :=
  fun p => .single (h p)

theorem does_change {f : Phone → α × Phone} (h : ∀ p, Touch cs p (f p).2) :
    (Job.change f).Does cs := fun p => .single (h p)

theorem Does.bind {job : Job α} {next : α → Job β} (h : job.Does cs)
    (hn : ∀ value, (next value).Does cs) : (job >>= next).Does cs :=
  fun p => (h p).bind hn

theorem does_awaitHeadset : Job.awaitHeadset.Does cs := by
  intro p
  unfold Job.awaitHeadset
  split
  · exact .refl
  · exact ⟨.refl, fun _ _ => .refl⟩

theorem does_when {job : Job Unit} (condition : Bool) (h : job.Does cs) :
    (Job.when condition job).Does cs := by
  cases condition
  · exact does_pure ()
  · exact h

end Job

namespace Phone
open Job

section
variable (hs : .services ∈ cs)
include hs

theorem connectAudio_does (address : Address) (switching : Bool) :
    (connectAudio address switching).Does cs := by
  have finished : (finishConnect address switching).Does cs := by
    refine Does.bind (does_update fun p => ?_) fun _ => does_pure _
    cases switching
    · exact .single (.made address hs)
    · exact .refl
  have activated (use : ActiveUse) : (Job.change (activate address use)).Does cs :=
    does_change fun p => .asked _ p.platform.headset hs
  apply Does.bind (does_touch fun p => .requested address hs)
  intro _
  apply Does.bind does_read
  intro p
  split
  · exact does_pure _
  · apply Does.bind does_awaitHeadset
    intro attached
    split
    · apply Does.bind (activated _)
      intro accepted
      split
      · apply Does.bind (does_change fun p => .asked p.platform.adapter _ hs)
        intro reply
        split
        · exact finished
        · exact does_pure _
      · exact does_pure _
    · exact does_pure _
  · apply Does.bind (activated _)
    intro accepted
    split
    · exact finished
    · exact does_pure _

theorem disconnectAudio_does : disconnectAudio.Does cs := by
  apply Does.bind (does_touch fun p => .recorded _ rfl)
  intro _
  apply Does.bind does_awaitHeadset
  intro attached
  apply does_update
  intro p
  cases attached
  · exact .single (.released hs)
  · have torn : Touches cs p p.disconnectSco := .single (.asked p.platform.adapter _ hs)
    exact torn.trans (.single (.released hs))

section
variable (hr : .retry ∈ cs)
include hr

theorem disconnect_does : disconnect.Does cs := by
  apply Does.bind (does_touch fun p => .retryDropped hr)
  intro _
  apply Does.bind (does_touch fun p => .noted _)
  intro _
  exact disconnectAudio_does hs

theorem startConnect_does (hm : .state ∈ cs) (target : Address) (attempt : Nat) :
    (startConnect target attempt).Does cs := by
  apply Does.bind does_read
  intro p
  apply Does.bind (does_when _ (disconnectAudio_does hs))
  intro _
  apply Does.bind (connectAudio_does hs target _)
  intro result
  cases result with
  | ok =>
    apply Does.bind (does_touch fun p => .recorded _ rfl)
    intro _
    exact Does.bind (does_touch fun p => .moved _ hm) fun _ => does_pure _
  | error failure =>
    exact Does.bind (does_touch fun p => .rejected target attempt failure hr) fun _ => does_pure _

theorem connect_does (hm : .state ∈ cs) (requested : Option Address) (attempt : Nat) :
    (connect requested attempt).Does cs := by
  have dropped (p : Phone) : Touches cs p (if attempt = 0 then p.dropRetry else p) := by
    split
    · exact .single (.retryDropped hr)
    · exact .refl
  apply Does.bind (does_update dropped)
  intro _
  apply Does.bind does_read
  intro p
  split
  · apply Does.bind (does_touch fun p => .noted _)
    intro _
    exact Does.bind (does_touch fun p => .posted _ rfl) fun _ => does_pure _
  · split
    · exact Does.bind (does_touch fun p => .recorded _ rfl) fun _ => does_pure _
    · split
      · exact does_pure _
      · exact startConnect_does hs hr hm _ _

theorem retryConnect_does (hm : .state ∈ cs) (address : Address) (attempt : Nat) :
    (retryConnect address attempt).Does cs := by
  apply Does.bind does_read
  intro p
  split
  · exact does_pure none
  · split
    · exact does_pure none
    · exact Does.bind (connect_does hs hr hm _ _) fun outcome => does_pure (some outcome)

end
end

theorem carryingAudio_does : carryingAudio.Does cs := by
  apply Does.bind does_read
  intro p
  split
  · exact Does.bind does_read fun _ => does_pure _
  · apply Does.bind does_awaitHeadset
    intro attached
    exact Does.bind does_read fun _ => does_pure _

theorem moveToActualState_does (hm : .state ∈ cs) : moveToActualState.Does cs := by
  apply Does.bind carryingAudio_does
  intro found
  cases found <;> exact does_touch fun p => .moved _ hm

/-- What follows once a device has been removed from a profile, or was not there. -/
def afterLoss (address : Address) (removed : Bool) : Job Unit := do
  if removed then
    Job.update (tell .deviceListChanged)
    unless (← Job.read).registry.isConnected address do
      Job.update fun p => { p with machine := p.machine.unuse address }
      if (← Job.read).machine.state.liveAddress = some address then moveToActualState

theorem onDeviceLost_eq (address : Address) (profile : Profile) :
    onDeviceLost address profile = Job.change (removeDevice address profile) >>= afterLoss address :=
  rfl

theorem afterLoss_does (address : Address) (ha : .absence address ∈ cs) (hm : .state ∈ cs)
    (removed : Bool) : (afterLoss address removed).Does cs := by
  unfold afterLoss
  split
  · apply Does.bind (does_touch fun p => .recorded _ rfl)
    intro _
    apply Does.bind does_read
    intro p
    split
    · exact does_pure ()
    · apply Does.bind (does_touch fun p => .unused address ha)
      intro _
      apply Does.bind does_read
      intro q
      split
      · exact moveToActualState_does hm
      · exact does_pure ()
  · exact does_pure ()

theorem onConnectionTimeout_does (hm : .state ∈ cs) (address : Address) :
    (onConnectionTimeout address).Does cs := by
  apply Does.bind does_read
  intro p
  split
  · exact Does.bind (does_touch fun p => .noted _) fun _ => moveToActualState_does hm
  · exact does_pure ()

theorem onAudioOn_touches (hm : .state ∈ cs) (p : Phone) (address : Address) :
    Touches cs p (p.onAudioOn address) := by
  unfold onAudioOn
  split
  · exact .single (.moved _ hm)
  · exact .refl

theorem onAudioLost_does (hm : .state ∈ cs) (address : Option Address) :
    (onAudioLost address).Does cs := by
  apply Does.bind does_read
  intro p
  dsimp only
  split
  · exact moveToActualState_does hm
  · split
    · exact moveToActualState_does hm
    · apply Does.bind (does_touch fun p => .noted _)
      intro _
      exact does_touch fun p => .recorded _ rfl

theorem failed_touch (p : Phone) (failed : Option Address) : Touch cs p (p.track (·.fail failed)) :=
  .tracked _ (.fail failed) rfl fun t => TrackerStep.effect t (.fail failed)

theorem confirmed_touch (p : Phone) (c : Confirmation) : Touch cs p (p.track (·.confirm c)) :=
  .tracked _ (.confirm c) rfl fun t => TrackerStep.effect t (.confirm c)

theorem confirm_touches (p : Phone) (signal : Signal) (address : Address) :
    Touches cs p (p.confirm signal address) := by
  unfold confirm
  split
  · exact .refl
  · exact .single (p.confirmed_touch _)

theorem onConnectOutcome_touches (p : Phone) (outcome : ConnectOutcome) :
    Touches cs p (p.onConnectOutcome outcome) := by
  unfold onConnectOutcome
  split
  · rename_i address
    have confirmed : Touches cs p (p.confirm .bluetoothAudioConnected address) :=
      p.confirm_touches _ _
    dsimp only
    split
    · exact confirmed.trans (confirm_touches _ _ _)
    · exact confirmed
  · exact .refl

theorem onStateChanged_touches (p : Phone) (before : RouteState) :
    Touches cs p (p.onStateChanged before) := by
  have left : Touches cs p (p.confirmLeft before) := by
    unfold confirmLeft
    split
    · exact p.confirm_touches _ _
    · exact .refl
  have entered (q : Phone) (after : RouteState) : Touches cs q (q.confirmEntered after) := by
    unfold confirmEntered
    split
    · exact q.confirm_touches _ _
    · exact .refl
  have failed (q : Phone) (after : RouteState) : Touches cs q (q.failAttempted before after) := by
    unfold failAttempted
    split
    · dsimp only
      split
      · exact .single (q.failed_touch _)
      · exact .refl
    · exact .refl
  unfold onStateChanged
  dsimp only
  split
  · exact .refl
  · exact (left.trans (entered _ _)).trans (failed _ _)

theorem clearStaleDeadline_touches (p : Phone) : Touches cs p p.clearStaleDeadline := by
  unfold clearStaleDeadline
  split
  · rename_i h
    exact .single (.deadlineDropped (Option.isNone_iff_eq_none.mp h))
  · exact .refl

theorem performed_does (action : RouteAction) :
    (Job.update (record (.performed action))).Does cs := does_touch fun _ => .recorded _ rfl

end Phone

/-- What an action is about. -/
@[simp] def RouteAction.concerns : RouteAction → List Concern
  | .connectBluetooth _ => [.services, .retry, .state]
  | .disconnectBluetooth => [.services, .retry]
  | .setCommunicationDevice _ | .clearCommunicationDevice => [.choice]

namespace Phone
open Job

theorem perform_does (action : RouteAction) (h : action.concerns ⊆ cs) : (perform action).Does cs := by
  cases action with
  | connectBluetooth address =>
    obtain ⟨hs, hr, hm⟩ : .services ∈ cs ∧ .retry ∈ cs ∧ .state ∈ cs := by simpa using h
    apply Does.bind (connect_does hs hr hm address 0)
    intro outcome
    apply Does.bind (performed_does _)
    intro _
    exact does_update fun p => p.onConnectOutcome_touches outcome
  | disconnectBluetooth =>
    obtain ⟨hs, hr⟩ : .services ∈ cs ∧ .retry ∈ cs := by simpa using h
    exact Does.bind (disconnect_does hs hr) fun _ => performed_does _
  | setCommunicationDevice kind =>
    have choice : .choice ∈ cs := by simpa using h
    exact Does.bind (performed_does _) fun _ => does_touch fun _ => .chosen kind choice
  | clearCommunicationDevice =>
    have choice : .choice ∈ cs := by simpa using h
    exact Does.bind (does_touch fun _ => .cleared choice) fun _ => performed_does _

theorem performAll_does (actions : List RouteAction) (h : ∀ action ∈ actions, action.concerns ⊆ cs) :
    (performAll actions).Does cs := by
  induction actions with
  | nil => exact does_pure ()
  | cons action rest ih =>
    apply Does.bind does_read
    intro p
    apply Does.bind (perform_does action (h action List.mem_cons_self))
    intro _
    apply Does.bind (does_update fun q => q.onStateChanged_touches _)
    intro _
    exact ih fun a ha => h a (List.mem_cons_of_mem action ha)

/-- The end of the begin of a transition, once its actions are performed. -/
def concluded (ticket : Ticket) (id : TransitionId) (p : Phone) : Phone :=
  ((p.track TransitionTracker.settle).answer ticket (.begun id)).clearStaleDeadline

theorem concluded_touches (p : Phone) (ticket : Ticket) (id : TransitionId) :
    Touches cs p (p.concluded ticket id) := by
  have settled : Touches cs p (p.track TransitionTracker.settle) :=
    .single (.tracked _ .settle rfl fun t => TrackerStep.effect t .settle)
  have answered : Touches cs p ((p.track TransitionTracker.settle).answer ticket (.begun id)) :=
    settled.trans (.single (.answered ticket _))
  exact answered.trans (clearStaleDeadline_touches _)

/-- The begin of a transition, up to its actions. -/
def prepared (origin destination : AudioRoute) (destinationActive : Bool) (p : Phone) : Phone :=
  (p.begun origin destination destinationActive).startDeadline p.tracker.nextId

theorem handle_begin_eq (p : Phone) (origin destination : AudioRoute) (destinationActive : Bool)
    (ticket : Ticket) :
    let message : Message := .beginTransition origin destination destinationActive ticket
    handle message p =
      (performAll (p.tracker.begin origin destination destinationActive).2.1
        ((p.record (.handled message)).prepared origin destination destinationActive)).bind
        fun _ => Job.update (concluded ticket p.tracker.nextId) := by
  intro message
  let performed : Step Unit := performAll (p.tracker.begin origin destination destinationActive).2.1
    ((p.record (.handled message)).prepared origin destination destinationActive)
  let settled : Unit → Job TransitionId := fun _ r =>
    .done p.tracker.nextId (r.track TransitionTracker.settle)
  let answered : TransitionId → Job Unit := fun id r => .done () (r.answer ticket (.begun id))
  let cleared : Unit → Job Unit := fun _ r => .done () r.clearStaleDeadline
  calc handle message p = ((performed.bind settled).bind answered).bind cleared := rfl
    _ = (performed.bind settled).bind fun id r => (answered id r).bind cleared :=
      Step.bind_assoc _ _ _
    _ = performed.bind fun _ r => (settled () r).bind fun id r => (answered id r).bind cleared :=
      Step.bind_assoc performed settled _

/-- The begin of a transition is about what its actions are about. -/
theorem handle_begin_does (p : Phone) (origin destination : AudioRoute) (destinationActive : Bool)
    (ticket : Ticket) (hb : .start origin destination destinationActive ∈ cs)
    (h : ∀ action ∈ (p.tracker.begin origin destination destinationActive).2.1, action.concerns ⊆ cs) :
    let message : Message := .beginTransition origin destination destinationActive ticket
    (handle message p).Does cs (p.record (.handled message)) := by
  intro message
  let noted := p.record (.handled message)
  have begun : Touches cs noted (noted.prepared origin destination destinationActive) :=
    .single (.begun origin destination destinationActive hb)
  have performed := performAll_does (p.tracker.begin origin destination destinationActive).2.1 h
  rw [handle_begin_eq]
  apply Step.Does.after begun
  apply Step.Does.bind (performed _)
  intro _ q
  exact q.concluded_touches ticket _

theorem beginTransition_does (hs : .services ∈ cs) (hr : .retry ∈ cs) (hm : .state ∈ cs)
    (hc : .choice ∈ cs) (origin destination : AudioRoute) (destinationActive : Bool)
    (hb : .start origin destination destinationActive ∈ cs) :
    (beginTransition origin destination destinationActive).Does cs := by
  intro p
  -- The number of the transition comes from the phone that it is begun on, so its begin and its
  -- deadline are one touch.
  have begun : Touches cs p (p.prepared origin destination destinationActive) :=
    .single (.begun origin destination destinationActive hb)
  have performed : (performAll (p.tracker.begin origin destination destinationActive).2.1).Does cs := by
    apply performAll_does
    intro action _
    cases action <;> simp [hs, hr, hm, hc]
  have settled : (Job.update (track TransitionTracker.settle)).Does cs :=
    does_touch fun q => .tracked _ .settle rfl fun t => TrackerStep.effect t .settle
  have rest := Does.bind performed fun _ => Does.bind settled fun _ => does_pure p.tracker.nextId
  exact Step.Does.after begun (rest _)

end Phone

/-- What the handling of a message is about. -/
@[simp] def Message.concerns : Message → List Concern
  | .deviceAdded device profile => [.arrival device profile]
  | .deviceLost address profile => [.loss address profile, .absence address, .state]
  | .activeDeviceChanged profile address => [.activity profile address]
  | .connect _ | .retryConnect _ _ => [.services, .retry, .state]
  | .disconnect => [.services, .retry]
  | .connectionTimeout _ | .audioOn _ | .audioLost _ => [.state]
  | .beginTransition origin destination destinationActive _ =>
    [.services, .retry, .state, .choice, .start origin destination destinationActive]
  | .switchToBaseline exclude => [.baseline exclude]
  | .confirmation _ | .transitionFailed _ | .transitionTimeout _ | .query _ _ => []

namespace Phone
open Job

theorem act_does (m : Message) : (act m).Does m.concerns := by
  have outcome (cs : List Concern) (outcome : ConnectOutcome) :
      (Job.update (onConnectOutcome outcome)).Does cs :=
    does_update fun p => p.onConnectOutcome_touches outcome
  cases m with
  | deviceAdded device profile => exact does_touch fun p => .added device profile (by simp)
  | deviceLost address profile =>
    rw [act, onDeviceLost_eq]
    apply Does.bind (does_change fun p => .removed address profile (by simp))
    exact afterLoss_does address (by simp) (by simp)
  | activeDeviceChanged profile address =>
    exact does_touch fun p => .activated profile address (by simp)
  | connect address =>
    apply Does.bind
    · apply connect_does <;> simp
    · exact outcome _
  | retryConnect address attempt =>
    apply Does.bind
    · apply retryConnect_does <;> simp
    · intro result
      cases result with
      | none => exact does_pure ()
      | some found => exact outcome _ found
  | disconnect => apply disconnect_does <;> simp
  | connectionTimeout address => apply onConnectionTimeout_does; simp
  | audioOn address =>
    apply does_update
    intro p
    apply onAudioOn_touches
    simp
  | audioLost address => apply onAudioLost_does; simp
  | beginTransition origin destination destinationActive ticket =>
    apply Does.bind
    · apply beginTransition_does <;> simp
    · intro id
      exact does_touch fun p => .answered ticket _
  | confirmation c => exact does_touch fun p => p.confirmed_touch c
  | transitionFailed address => exact does_touch fun p => p.failed_touch address
  | transitionTimeout id =>
    exact does_touch fun p => .tracked _ (.timeOut id) rfl fun t => TrackerStep.effect t (.timeOut id)
  | switchToBaseline exclude => exact does_touch fun p => .abandoned exclude (by simp)
  | query question ticket => exact does_touch fun p => .answered ticket _

/-- What comes after a message: the change of state is accounted for, unless a transition has done so
itself, and a stale deadline is cleared. -/
def accounted (message : Message) (before : RouteState) (p : Phone) : Phone :=
  match message with
  | .beginTransition .. => p.clearStaleDeadline
  | _ => (p.onStateChanged before).clearStaleDeadline

theorem accounted_touches (p : Phone) (message : Message) (before : RouteState) :
    Touches cs p (p.accounted message before) := by
  unfold accounted
  split
  · exact p.clearStaleDeadline_touches
  · exact (p.onStateChanged_touches before).trans (clearStaleDeadline_touches _)

theorem handle_eq (p : Phone) (message : Message) :
    handle message p = (act message (p.record (.handled message))).bind fun _ =>
      Job.update (accounted message p.machine.state) := by
  cases message <;> rfl

theorem handle_does (p : Phone) (message : Message) :
    (handle message p).Does message.concerns (p.record (.handled message)) := by
  rw [handle_eq]
  exact (act_does message _).bind fun _ q => q.accounted_touches message _

/-- `Message.concerns` names the loss for the whole message; from the removal on it is no concern any
more. -/
theorem handle_deviceLost_does (p : Phone) (address : Address) (profile : Profile) :
    (handle (.deviceLost address profile) p).Does [.absence address, .state]
      ((p.record (.handled (.deviceLost address profile))).removeDevice address profile).2 := by
  rw [handle_eq, act, onDeviceLost_eq]
  apply Step.Does.bind
  · exact afterLoss_does address (by simp) (by simp) _ _
  · intro _ q
    exact q.accounted_touches _ _

end Phone
end CallAudio

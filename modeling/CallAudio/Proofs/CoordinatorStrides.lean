import CallAudio.Proofs.Confirmations
import CallAudio.Proofs.MachineStrides

/-! The coordinator takes strides only, whatever message it handles. -/
namespace CallAudio

theorem Job.Along.strides {α : Type} {job : Job α} {p : Phone} {post : α → Phone → Prop}
    (h : job.Along (Via MachineStride) p post) :
    job.Along (Via Stride) p fun value q => Via MachineStride p q ∧ post value q :=
  h.mono (fun _ hq => hq.strides) fun _ _ hq hv => ⟨hq, hv⟩

namespace Phone
open Job

theorem Quiet.strides {α : Type} {job : Job α} {p : Phone} (h : Quiet job p) :
    job.Along (Via Stride) p fun _ q => q.machine.state = p.machine.state :=
  h.mono (fun _ hq => hq.mono fun _ _ => .quiet) fun _ _ hq _ => hq.quiet_state

theorem performed_via (p : Phone) (action : RouteAction) :
    Via Stride p (p.record (.performed action)) := Via.record (fun _ _ => .quiet) p rfl

theorem Vouched.performed {p q : Phone} {address : Address} (h : Vouched p q address)
    (action : RouteAction) : Vouched p (q.record (.performed action)) address :=
  ⟨h.1, h.2.1, h.2.2.recorded rfl⟩

/-- What follows a connect, from where it ended. -/
theorem answered {p q : Phone} (outcome : ConnectOutcome) (hq : Via MachineStride p q)
    (hv : ∀ address, outcome = .reaffirmed address → Vouched p q address) :
    Via Stride q (q.onConnectOutcome outcome) ∧
      Explained p.machine.state (q.onConnectOutcome outcome).view :=
  ⟨q.onConnectOutcome_via outcome fun address ho => (hv address ho).2,
    q.explained_onConnectOutcome outcome hq.explained⟩

theorem perform_along (p : Phone) (action : RouteAction) :
    (perform action).Along (Via Stride) p fun _ q => Explained p.machine.state q.view := by
  have hR := stridePassage
  cases action with
  | connectBluetooth address =>
    apply Along.bind (connect_along p address 0).strides hR
    rintro outcome q - ⟨hq, hv⟩
    have hp : Via MachineStride q (q.record (.performed (.connectBluetooth address))) :=
      Via.record (fun _ _ => .quiet) q rfl
    obtain ⟨strides, explained⟩ :=
      answered outcome (hq.trans hp) fun a ho => (hv a ho).performed _
    exact along_update_bind hR hp.strides (along_update strides explained)
  | disconnectBluetooth =>
    apply Along.bind (disconnect_quiet p).strides hR
    intro _ q _ hq
    exact along_update (performed_via q _) (Or.inl hq)
  | setCommunicationDevice kind =>
    apply along_update_bind hR (performed_via p _)
    exact along_update (setCommunicationKind_via _ kind)
      (Or.inl (setCommunicationKind_state _ kind))
  | clearCommunicationDevice =>
    apply along_update_bind hR (Via.of_view_eq p.view_clearCommunicationDevice)
    exact along_update (performed_via _ _) (Or.inl rfl)

theorem performAll_along (p : Phone) (actions : List RouteAction) :
    (performAll actions).Along (Via Stride) p fun _ _ => True := by
  have hR := stridePassage
  induction actions generalizing p with
  | nil => exact along_pure hR trivial
  | cons action rest ih =>
    refine along_read_bind (Along.bind (perform_along p action) hR fun _ q _ hq => ?_)
    exact along_update_bind hR (onStateChanged_via q hq) (ih _)

def begun (origin destination : AudioRoute) (destinationActive : Bool) (p : Phone) : Phone :=
  let (id, actions, tracker) := p.tracker.begin origin destination destinationActive
  { p with tracker }.record (.begun id actions)

theorem beginTransition_along (p : Phone) (origin destination : AudioRoute)
    (destinationActive : Bool) :
    Step.Along (Via Stride) (p.begun origin destination destinationActive) (fun _ _ => True)
      (beginTransition origin destination destinationActive p) := by
  have hR := stridePassage
  let q := p.begun origin destination destinationActive
  change Job.Along (do
    Job.update (startDeadline p.tracker.nextId)
    performAll (p.tracker.begin origin destination destinationActive).2.1
    Job.update (track TransitionTracker.settle)
    return p.tracker.nextId) _ q _
  apply along_update_bind hR (Via.of_view_eq (view_startDeadline ..))
  apply Along.bind (performAll_along _ _) hR
  intro _ r _ _
  exact along_update_bind hR (Via.tracked r .settle) (along_pure hR trivial)

/-- A begin is handled at once up to where its transition is the pending one. -/
theorem handle_begin_along (p : Phone) (origin destination : AudioRoute)
    (destinationActive : Bool) (ticket : Ticket) :
    let message : Message := .beginTransition origin destination destinationActive ticket
    Step.Along (Via Stride)
      ((p.record (.handled message)).begun origin destination destinationActive)
      (fun _ _ => True) (handle message p) := by
  intro message
  let q := p.record (.handled message)
  change Step.Along _ _ _ (((beginTransition origin destination destinationActive q).bind
    fun id => Job.update (answer ticket (.begun id))).bind fun _ => Job.update clearStaleDeadline)
  have quiet {f : Phone → Phone} (hf : ∀ r, (f r).view = r.view) (r : Phone)
      (hr : Via Stride (q.begun origin destination destinationActive) r) :
      Step.Along (Via Stride) (q.begun origin destination destinationActive) (fun _ _ => True)
        (Job.update f r) :=
    Step.Along.after stridePassage hr (along_update (Via.of_view_eq (hf r)) trivial)
  have answered := (beginTransition_along q origin destination destinationActive).bind
    fun id r hr _ => quiet (fun r => view_answer r ticket (.begun id)) r hr
  exact answered.bind fun _ r hr _ => quiet clearStaleDeadline_view r hr

/-- A message other than the begin of a transition changes the machine's state only by telling it. -/
theorem act_along (p : Phone) (message : Message)
    (hb : ∀ origin destination destinationActive ticket,
      message ≠ .beginTransition origin destination destinationActive ticket)
    (hm : ∃ state, ⟨.handled message, state⟩ ∈ p.journal) :
    (act message).Along (Via Stride) p fun _ q => Explained p.machine.state q.view := by
  have hR := stridePassage
  have machine {job : Job Unit} (h : job.Along (Via MachineStride) p fun _ _ => True) :
      job.Along (Via Stride) p fun _ q => Explained p.machine.state q.view :=
    h.strides.post_mono fun _ _ _ hq => hq.1.explained
  have tracked {f : TransitionTracker → Option TransitionOutcome × TransitionTracker}
      (hf : Licensed p.view f) :
      (Job.update (track f)).Along (Via Stride) p
        fun _ q => Explained p.machine.state q.view :=
    along_update (Via.tracked p hf) (Or.inl ((congrArg RouteView.state (p.view_track f)).trans
      (RouteView.tracked_state _ f)))
  -- The machine tells of what it does to its state, and the tracker does nothing to it.
  cases message with
  | deviceAdded device profile =>
    exact machine (along_update ((onDeviceAdded_quiet p _ _).mono fun _ _ => .quiet) trivial)
  | deviceLost address profile => exact machine (onDeviceLost_along p address profile)
  | activeDeviceChanged profile address =>
    exact machine (along_update ((onActiveDeviceChanged_quiet p _ _).mono fun _ _ => .quiet) trivial)
  | connect address =>
    apply Along.bind (connect_along p address 0).strides hR
    rintro outcome q - ⟨hq, hv⟩
    obtain ⟨strides, explained⟩ := answered outcome hq hv
    exact along_update strides explained
  | retryConnect address attempt =>
    apply Along.bind (retryConnect_along p address attempt).strides hR
    rintro result q - ⟨hq, hv⟩
    cases result with
    | none => exact along_pure hR hq.explained
    | some outcome =>
      obtain ⟨strides, explained⟩ := answered outcome hq fun a ho => hv a (congrArg some ho)
      exact along_update strides explained
  | disconnect =>
    exact (disconnect_quiet p).strides.post_mono fun _ _ _ hq => Or.inl hq
  | connectionTimeout address => exact machine (onConnectionTimeout_along p address)
  | audioOn address => exact machine (along_update (onAudioOn_along p address) trivial)
  | audioLost address => exact machine (onAudioLost_along p address)
  | beginTransition origin destination destinationActive ticket => exact (hb _ _ _ _ rfl).elim
  | confirmation c =>
    obtain ⟨state, hs⟩ := hm
    exact tracked (.received c state hs)
  | transitionFailed address => exact tracked (.fail address)
  | transitionTimeout id => exact tracked (.timeOut id)
  | switchToBaseline exclude =>
    exact along_update (Via.single (.abandoned exclude)) (Or.inl rfl)
  | query question ticket => exact along_update (Via.of_view_eq (view_answer ..)) (Or.inl rfl)

/-- The change of state that a message makes is accounted for after it. -/
theorem handle_other (p : Phone) (message : Message)
    (hb : ∀ origin destination destinationActive ticket,
      message ≠ .beginTransition origin destination destinationActive ticket) :
    handle message p = (act message (p.record (.handled message))).bind fun _ =>
      Job.update fun r => (r.onStateChanged p.machine.state).clearStaleDeadline := by
  cases message with
  | beginTransition => exact (hb _ _ _ _ rfl).elim
  | _ => rfl

theorem handle_other_along (p : Phone) (message : Message)
    (hb : ∀ origin destination destinationActive ticket,
      message ≠ .beginTransition origin destination destinationActive ticket) :
    Step.Along (Via Stride) (p.record (.handled message)) (fun _ _ => True)
      (handle message p) := by
  have hR := stridePassage
  let q := p.record (.handled message)
  have listed : ⟨.handled message, q.machine.state⟩ ∈ q.journal :=
    List.mem_append_right _ List.mem_cons_self
  rw [handle_other p message hb]
  apply Step.Along.bind (act_along q message hb ⟨_, listed⟩)
  intro _ r hr explained
  have settled : Via Stride r (r.onStateChanged q.machine.state).clearStaleDeadline :=
    (onStateChanged_via r explained).trans (Via.of_view_eq (clearStaleDeadline_view _))
  exact Step.Along.after hR hr (along_update settled trivial)

theorem handle_along (p : Phone) (message : Message) (rest : List Message)
    (h : p.inbox = message :: rest) :
    Step.Along (Via Stride) p (fun _ _ => True) (handle message { p with inbox := rest }) := by
  have hR := stridePassage
  let q := ({ p with inbox := rest } : Phone).record (.handled message)
  have taken : Via Stride p q := Via.single (.taken message rest h)
  -- A begin performs its actions step by step and accounts for each; all other messages are
  -- accounted for at their end.
  by_cases hb : ∃ origin destination destinationActive ticket,
    message = .beginTransition origin destination destinationActive ticket
  · obtain ⟨origin, destination, destinationActive, ticket, rfl⟩ := hb
    have begun : Via Stride q (q.begun origin destination destinationActive) :=
      Via.single (.begun origin destination destinationActive ticket p.journal rfl)
    exact (handle_begin_along _ origin destination destinationActive ticket).after hR
      (taken.trans begun)
  · refine (handle_other_along _ message ?_).after hR taken
    intro origin destination destinationActive ticket he
    exact hb ⟨origin, destination, destinationActive, ticket, he⟩

end Phone
end CallAudio

import CallAudio.Proofs.AwaitedSignals
import CallAudio.Proofs.Between
import CallAudio.Proofs.CommunicationDevice

/-! A route is announced to be active only after the actions of its transition. The tracker could hear of
confirmations while they are performed, but in a plan with a connect that is the only action, and no other
action confirms anything. A refusal of the audio service ends the transition for good. -/
namespace CallAudio

def Happening.performed? : Happening → Option RouteAction
  | .performed action => some action
  | _ => none

/-- The actions that were performed, oldest first. -/
def performedActions (journal : List JournalEntry) : List RouteAction :=
  journal.filterMap fun e => e.happening.performed?

theorem performedActions_snoc (journal : List JournalEntry) (e : JournalEntry) :
    performedActions (journal ++ [e]) = performedActions journal ++ e.happening.performed?.toList := by
  rw [performedActions, List.filterMap_append]
  obtain ⟨happening, state⟩ := e
  cases happening <;> rfl

/-- The transition begun last leads to the destination, and since its begin all of its actions were
performed, in their order. -/
def CarriedOut (journal : List JournalEntry) (destination : AudioRoute) : Prop :=
  ∃ before origin destinationActive ticket id actions state, journal = before ++
      ⟨.handled (.beginTransition origin destination destinationActive ticket), state⟩ ::
        ⟨.begun id actions, state⟩ :: sinceBegun journal ∧
    actions.Sublist (performedActions (sinceBegun journal))

/-- The transition begun last leads to the destination, and its actions were performed up to the rest. -/
def Underway (rest : List RouteAction) (journal : List JournalEntry) (destination : AudioRoute) : Prop :=
  ∃ before origin destinationActive ticket id done state, journal = before ++
      ⟨.handled (.beginTransition origin destination destinationActive ticket), state⟩ ::
        ⟨.begun id (done ++ rest), state⟩ :: sinceBegun journal ∧
    done.Sublist (performedActions (sinceBegun journal))

/-- Every route announced to be active is the destination of a transition carried out. -/
def AnnouncedInTime (journal : List JournalEntry) : Prop :=
  ∀ earlier later r s, journal = earlier ++ ⟨.announced (.routeActive r), s⟩ :: later →
    CarriedOut earlier r

section
variable {journal : List JournalEntry} {destination : AudioRoute} {rest : List RouteAction}

theorem Underway.carriedOut (h : Underway [] journal destination) : CarriedOut journal destination := by
  obtain ⟨before, origin, destinationActive, ticket, id, done, state, hj, performed⟩ := h
  rw [List.append_nil] at hj
  exact ⟨before, origin, destinationActive, ticket, id, done, state, hj, performed⟩

/-- Whatever is noted besides a begin, the transition goes on; if an action of it was performed, with less to
be done. -/
theorem Underway.snoc {e : JournalEntry} (h : Underway (e.happening.performed?.toList ++ rest) journal
    destination) (hb : e.happening.isBegun = false) : Underway rest (journal ++ [e]) destination := by
  obtain ⟨before, origin, destinationActive, ticket, id, done, state, hj, performed⟩ := h
  refine ⟨before, origin, destinationActive, ticket, id, done ++ e.happening.performed?.toList, state,
    ?_, ?_⟩
  · rw [sinceBegun_snoc_of_not hb, List.append_assoc]
    exact (congrArg (· ++ [e]) hj).trans (List.append_assoc ..)
  · rw [sinceBegun_snoc_of_not hb, performedActions_snoc]
    exact performed.append_right _

/-- More may be performed than is left of the plan, as long as the plan comes first. -/
theorem Underway.snoc_of_done {e : JournalEntry} (h : Underway rest journal destination)
    (hb : e.happening.isBegun = false) : Underway rest (journal ++ [e]) destination := by
  obtain ⟨before, origin, destinationActive, ticket, id, done, state, hj, performed⟩ := h
  refine ⟨before, origin, destinationActive, ticket, id, done, state, ?_, ?_⟩
  · rw [sinceBegun_snoc_of_not hb]
    exact (congrArg (· ++ [e]) hj).trans (List.append_assoc ..)
  · rw [sinceBegun_snoc_of_not hb, performedActions_snoc]
    exact performed.trans (List.sublist_append_left _ _)

theorem AnnouncedInTime.snoc (h : AnnouncedInTime journal) {e : JournalEntry}
    (he : ∀ r, e.happening = .announced (.routeActive r) → CarriedOut journal r) :
    AnnouncedInTime (journal ++ [e]) := by
  intro earlier later r s hj
  -- The announcement is the new entry or an earlier one.
  rcases List.eq_nil_or_concat later with rfl | ⟨later, last, rfl⟩
  · obtain ⟨rfl, hl⟩ := List.append_inj' hj rfl
    obtain rfl := List.singleton_inj.mp hl
    exact he r rfl
  · rw [List.concat_eq_append, ← List.cons_append, ← List.append_assoc] at hj
    exact h earlier later r s (List.append_inj' hj rfl).1

end

/-- Whatever transition is pending has this rest of its actions still to be performed, and nothing was
announced too early. -/
structure Proceeds (rest : List RouteAction) (v : RouteView) : Prop where
  pending : ∀ T, v.tracker.pending = some T → Underway rest v.journal T.destination
  inTime : AnnouncedInTime v.journal

namespace Proceeds

variable {v w : RouteView} {rest : List RouteAction}

theorem of_same (h : Proceeds rest v) (ht : w.tracker = v.tracker) (hj : w.journal = v.journal) :
    Proceeds rest w := by
  refine ⟨fun T hp => ?_, ?_⟩
  · rw [hj]
    exact h.pending T (ht ▸ hp)
  · rw [hj]
    exact h.inTime

theorem entry (h : Proceeds rest v) (e : JournalEntry) (ht : w.tracker = v.tracker)
    (hj : w.journal = v.journal ++ [e]) (hb : e.happening.isBegun = false)
    (hr : ∀ r, e.happening ≠ .announced (.routeActive r)) : Proceeds rest w := by
  refine ⟨fun T hp => ?_, ?_⟩
  · rw [hj]
    exact (h.pending T (ht ▸ hp)).snoc_of_done hb
  · rw [hj]
    exact h.inTime.snoc fun r he => absurd he (hr r)

theorem performed {action : RouteAction} (h : Proceeds (action :: rest) v) :
    Proceeds rest (v.recorded (.performed action)) :=
  ⟨fun T hp => Underway.snoc (h.pending T hp) rfl, h.inTime.snoc nofun⟩

theorem machine (h : Proceeds rest v) (hm : MachineStride v w) : Proceeds rest w := by
  cases hm with
  | quiet hq =>
    cases hq with
    | post => exact h.of_same rfl rfl
    | record happening quiet =>
      refine h.entry ⟨happening, v.state⟩ rfl rfl (Happening.isBegun_of_isQuiet quiet) ?_
      rintro r rfl
      cases quiet
  | off => exact h.entry ⟨.told .audioDisconnected, .audioOff⟩ rfl rfl rfl nofun
  | connecting address => exact h.entry ⟨.told (.audioConnecting address), v.state⟩ rfl rfl rfl nofun
  | connected address =>
    exact h.entry ⟨.told (.audioConnected address), .connected address⟩ rfl rfl rfl nofun
  | reaffirmed address => exact h.entry ⟨.told (.audioConnected address), v.state⟩ rfl rfl rfl nofun

theorem via {p q : Phone} (h : Proceeds rest p.view) (way : Via MachineStride p q) :
    Proceeds rest q.view :=
  way.keeps (fun _ _ stride hv => hv.machine stride) h

/-- Without a pending transition nothing is left to be announced as active. -/
theorem dropped (h : Proceeds rest v) (exclude : Option Address) :
    Proceeds rest ({ v with tracker := { v.tracker with pending := none } }.recorded
      (.announced (.switchToBaseline exclude))) :=
  ⟨fun _ hp => (by cases hp), h.inTime.snoc nofun⟩

theorem failed (h : Proceeds rest v) (failed : Option Address) :
    Proceeds rest (v.tracked (·.fail failed)) := by
  rcases v.tracker.fail_cases failed with ⟨-, hs⟩ | ⟨T, -, hs⟩
  · rwa [RouteView.tracked_of_unchanged hs]
  · unfold RouteView.tracked
    simp only [hs]
    exact h.dropped _

/-- Once all is performed the tracker may act in any way. -/
theorem tracked (h : Proceeds [] v)
    {f : TransitionTracker → Option TransitionOutcome × TransitionTracker} {step : TrackerStep}
    (hs : step.isBegin = false) (hf : ∀ t, TrackerStep.Effect t step (f t).1 (f t).2) :
    Proceeds [] (v.tracked f) := by
  have effect := hf v.tracker
  unfold RouteView.tracked
  generalize (f v.tracker).1 = outcome at effect ⊢
  generalize (f v.tracker).2 = tracker at effect ⊢
  cases effect with
  | begun => cases hs
  | kept => exact h
  | trimmed c T outstanding hp =>
    refine ⟨fun T' hp' => ?_, h.inTime⟩
    obtain rfl := Option.some.inj hp'
    exact h.pending T hp
  | resolved step T _ hp =>
    refine ⟨fun _ hp' => (by cases hp'), h.inTime.snoc ?_⟩
    rintro r ⟨⟩
    exact (h.pending T hp).carriedOut
  | failed step T exclude => exact h.dropped exclude
  | dropped => exact ⟨fun _ hp' => (by cases hp'), h.inTime⟩

theorem begun (h : Proceeds [] v) {origin destination : AudioRoute} {destinationActive : Bool}
    {ticket : Ticket} {earlier : List JournalEntry}
    (hj : v.journal = earlier ++
      [⟨.handled (.beginTransition origin destination destinationActive ticket), v.state⟩]) :
    Proceeds (v.tracker.begin origin destination destinationActive).2.1
      (v.begun origin destination destinationActive) := by
  let actions := (v.tracker.begin origin destination destinationActive).2.1
  let e : JournalEntry := ⟨.begun v.tracker.nextId actions, v.state⟩
  have hw : (v.begun origin destination destinationActive).journal = v.journal ++ [e] := rfl
  refine ⟨fun T hp => ?_, ?_⟩
  · obtain rfl := Option.some.inj hp
    refine ⟨earlier, origin, destinationActive, ticket, v.tracker.nextId, [], v.state, ?_,
      List.nil_sublist _⟩
    have fresh : sinceBegun (v.journal ++ [e]) = [] := sinceBegun_snoc v.journal e
    rw [hw, fresh, hj, List.append_assoc]
    rfl
  · rw [hw]
    exact h.inTime.snoc nofun

end Proceeds

section
variable {cs : List Concern} {p q : Phone} {rest : List RouteAction}

/-- Once all is performed, nothing but a begin starts anything new. -/
theorem Touch.proceeds (h : Touch cs p q)
    (unstarted : ∀ origin destination destinationActive,
      Concern.start origin destination destinationActive ∉ cs)
    (hp : Proceeds [] p.view) : Proceeds [] q.view := by
  have same (hv : q.view = p.view) : Proceeds [] q.view := hv.symm ▸ hp
  have quiet (way : Via QuietStride p q) : Proceeds [] q.view := hp.via (way.mono fun _ _ => .quiet)
  cases h with
  | recorded happening plain =>
    refine hp.entry ⟨happening, p.machine.state⟩ rfl rfl ?_ ?_
    · cases happening <;> first | rfl | cases plain
    · rintro r rfl
      cases plain
  | noted entry => exact same (p.view_note entry)
  | answered ticket value => exact same (p.view_answer ticket value)
  | posted message => exact quiet (Via.post (fun _ _ h => h) p message)
  | requested address => exact quiet (Via.record (fun _ _ h => h) p rfl)
  | asked => exact same rfl
  | made address => exact same (p.view_makeCommunicationDevice address)
  | released => exact quiet p.releaseCommunicationDevice_quiet
  | retryDropped => exact same p.view_dropRetry
  | rejected target attempt failure => exact quiet (p.onRejected_quiet target attempt failure)
  | moved target =>
    by_cases still : target = p.machine.state
    · exact same (congrArg Phone.view (p.moveTo_same still))
    · cases target with
      | audioOff => exact hp.via p.moveTo_off
      | connected address => exact hp.via (p.moveTo_connected address)
      | connecting address =>
        rw [p.moveTo_eq still]
        have departed : ((p.departed (.connecting address)).startConnectionTimer address).view =
            p.view.moved (.connecting address) := p.view_departed _
        rw [departed]
        exact hp.of_same rfl rfl
  | chosen kind =>
    rcases p.setCommunicationKind_view kind with hv | hv
    · exact same hv
    · rw [hv]
      exact hp.failed none
  | cleared => exact same p.view_clearCommunicationDevice
  | added device profile => exact quiet (p.onDeviceAdded_quiet device profile)
  | removed address profile => exact same (p.view_removeDevice address profile)
  | unused => exact same rfl
  | activated profile address => exact quiet (p.onActiveDeviceChanged_quiet profile address)
  | begun origin destination destinationActive mem => exact absurd mem (unstarted _ _ _)
  | tracked f step hs hf =>
    rw [p.view_track]
    exact hp.tracked hs hf
  | abandoned exclude => exact hp.dropped exclude
  | deadlineDropped => exact same p.view_dropDeadline

theorem Touches.proceeds (h : Touches [] p q) (hp : Proceeds [] p.view) : Proceeds [] q.view :=
  h.keeps (P := fun q => Proceeds [] q.view)
    (fun _ _ touch hq => touch.proceeds (fun _ _ _ => List.not_mem_nil) hq) hp

end

namespace Phone
open Job

variable {p : Phone} {rest : List RouteAction}

/-- An action leaves the rest to be performed. Unless it is a connect the state stays what it was, and then
there is nothing to be confirmed. -/
theorem perform_proceeds {action : RouteAction} (h : Proceeds (action :: rest) p.view)
    (last : ∀ address, action = .connectBluetooth address → rest = []) :
    (perform action).Along (fun _ q => AnnouncedInTime q.journal) p fun _ q =>
      Proceeds rest q.view ∧
        ((∀ address, action ≠ .connectBluetooth address) → q.machine.state = p.machine.state) := by
  cases action with
  | connectBluetooth address =>
    obtain rfl := last address rfl
    have connected : (connect address 0).Along (fun _ q => AnnouncedInTime q.journal) p
        fun _ q => Proceeds [.connectBluetooth address] q.view :=
      (p.connect_along address 0).mono (fun _ way => (h.via way).inTime) fun _ _ way _ => h.via way
    refine Step.Along.bind connected fun outcome q _ hq => ?_
    have performed : Proceeds [] (q.record (.performed (.connectBluetooth address))).view := hq.performed
    have answered := (onConnectOutcome_touches _ outcome).proceeds performed
    exact ⟨answered.inTime, answered, fun other => absurd rfl (other address)⟩
  | disconnectBluetooth =>
    have torn : disconnect.Along (fun _ q => AnnouncedInTime q.journal) p fun _ q =>
        Proceeds (.disconnectBluetooth :: rest) q.view ∧ q.machine.state = p.machine.state := by
      have machine {q : Phone} (way : Via QuietStride p q) : Via MachineStride p q :=
        way.mono fun _ _ => .quiet
      exact p.disconnect_quiet.mono (fun _ way => (h.via (machine way)).inTime)
        fun _ _ way _ => ⟨h.via (machine way), way.quiet_state⟩
    refine Step.Along.bind torn fun _ q _ hq => ?_
    have performed : Proceeds rest (q.record (.performed .disconnectBluetooth)).view := hq.1.performed
    exact ⟨performed.inTime, performed, fun _ => hq.2⟩
  | setCommunicationDevice kind =>
    let noted := p.record (.performed (.setCommunicationDevice kind))
    have performed : Proceeds rest noted.view := h.performed
    have chosen : Proceeds rest (noted.setCommunicationKind kind).view := by
      rcases noted.setCommunicationKind_view kind with hv | hv
      · rwa [hv]
      · rw [hv]
        exact performed.failed none
    exact ⟨chosen.inTime, chosen, fun _ => noted.setCommunicationKind_state kind⟩
  | clearCommunicationDevice =>
    have performed : Proceeds rest
        (p.clearCommunicationDevice.record (.performed .clearCommunicationDevice)).view := by
      have same : p.clearCommunicationDevice.view = p.view := p.view_clearCommunicationDevice
      exact Proceeds.performed (same ▸ h)
    exact ⟨performed.inTime, performed, fun _ => rfl⟩

/-- A plan in which a connect stands alone is performed to its end before anything is announced. -/
theorem performAll_proceeds {actions : List RouteAction} (h : Proceeds actions p.view)
    (alone : ∀ address, .connectBluetooth address ∈ actions →
      actions = [.connectBluetooth address]) (start : Phone) :
    Step.Along (fun _ q => AnnouncedInTime q.journal) start (fun _ q => Proceeds [] q.view)
      (performAll actions p) := by
  induction actions generalizing p with
  | nil => exact ⟨h.inTime, h⟩
  | cons action rest ih =>
    have first := perform_proceeds h fun address he => by
      obtain ⟨-, rfl⟩ := List.cons.inj (alone address (he ▸ List.mem_cons_self))
      rfl
    have first' : Step.Along (fun _ q => AnnouncedInTime q.journal) start _ (perform action p) :=
      Step.Along.mono first (fun _ hq => hq) fun _ _ _ hq => hq
    change Step.Along _ start _ ((perform action p).bind fun _ q =>
      performAll rest (q.onStateChanged p.machine.state))
    refine Step.Along.bind first' fun _ q _ hq => ?_
    obtain ⟨proceeds, state⟩ := hq
    have changed : Proceeds rest (q.onStateChanged p.machine.state).view := by
      by_cases connects : ∃ address, action = .connectBluetooth address
      · -- After a connect nothing is left, so that the change of state may end the transition.
        obtain ⟨address, rfl⟩ := connects
        obtain ⟨-, rfl⟩ := List.cons.inj (alone address List.mem_cons_self)
        exact (q.onStateChanged_touches _).proceeds proceeds
      · have same : p.machine.state = q.machine.state :=
          (state fun address he => connects ⟨address, he⟩).symm
        have unchanged : q.onStateChanged p.machine.state = q := if_pos same
        rwa [unchanged]
    apply ih changed
    intro address mem
    obtain ⟨-, rfl⟩ := List.cons.inj (alone address (List.mem_cons_of_mem action mem))
    cases mem

theorem handle_begin_proceeds (h : Proceeds [] p.view) (origin destination : AudioRoute)
    (destinationActive : Bool) (ticket : Ticket) :
    (handle (.beginTransition origin destination destinationActive ticket)).Along
      (fun _ q => AnnouncedInTime q.journal) p fun _ q => Proceeds [] q.view := by
  let message : Message := .beginTransition origin destination destinationActive ticket
  let actions := (p.tracker.begin origin destination destinationActive).2.1
  have noted : Proceeds [] (p.view.recorded (.handled message)) :=
    h.entry ⟨.handled message, p.machine.state⟩ rfl rfl rfl nofun
  have begun : Proceeds actions
      ((p.record (.handled message)).prepared origin destination destinationActive).view := by
    have view : ((p.record (.handled message)).prepared origin destination destinationActive).view =
        (p.view.recorded (.handled message)).begun origin destination destinationActive :=
      view_startDeadline _ _
    rw [view]
    exact noted.begun rfl
  have alone (address : Option Address) (mem : .connectBluetooth address ∈ actions) :
      actions = [.connectBluetooth address] := by
    have plan : actions = [.connectBluetooth destination.address] := TransitionPlan.between_actions mem
    rw [plan, List.mem_singleton] at mem
    rw [plan, mem]
  unfold Job.Along
  rw [handle_begin_eq]
  apply Step.Along.bind (performAll_proceeds begun alone p)
  intro _ q _ hq
  have concluded : Proceeds [] (q.concluded ticket p.tracker.nextId).view :=
    (q.concluded_touches ticket _).proceeds hq
  exact ⟨concluded.inTime, concluded⟩

theorem handle_proceeds (h : Proceeds [] p.view) (message : Message) :
    (handle message).Along (fun _ q => AnnouncedInTime q.journal) p fun _ q => Proceeds [] q.view := by
  by_cases hb : message.isBegin = true
  · cases message with
    | beginTransition origin destination destinationActive ticket =>
      exact handle_begin_proceeds h origin destination destinationActive ticket
    | _ => cases hb
  · have unstarted (origin destination : AudioRoute) (destinationActive : Bool) :
        Concern.start origin destination destinationActive ∉ message.concerns := by
      cases message with
      | beginTransition => exact absurd rfl hb
      | _ => simp
    have noted : Proceeds [] (p.record (.handled message)).view :=
      h.entry ⟨.handled message, p.machine.state⟩ rfl rfl rfl nofun
    have upheld := (p.handle_does message).upholds (P := fun q => Proceeds [] q.view)
      (fun _ _ touch hq => touch.proceeds unstarted hq) noted
    have along := upheld.along (fun _ o hq => hq.of_same (outside_undisturbed _ o).tracker
      (outside_undisturbed _ o).journal) (fun _ _ hq => hq) p
    exact along.mono (fun _ hq => hq.inTime) fun _ _ hq _ => hq

end Phone

/-- All along a run, whatever was announced to be active was carried out before. -/
theorem Thread.proceeds_run (config : RouteConfig) (attached : List Profile) (moves : List ThreadMove) :
    ((fresh config attached).run moves).Between (fun p => AnnouncedInTime p.journal)
      fun p => Proceeds [] p.view := by
  have start : Proceeds [] (Phone.start config attached).view := by
    refine ⟨fun _ hp => (by cases hp), fun earlier later r s hj => ?_⟩
    exact absurd hj.symm (List.append_ne_nil_of_right_ne_nil _ (List.cons_ne_nil _ _))
  have fresh : (fresh config attached).Between (fun p => AnnouncedInTime p.journal)
      fun p => Proceeds [] p.view := start
  have undisturbed (p : Phone) (o : Outside) := p.outside_undisturbed o
  apply between_run fresh (fun _ hp => hp.inTime)
  · intro p o hp
    rwa [(undisturbed p o).journal]
  · intro p o hp
    exact hp.of_same (undisturbed p o).tracker (undisturbed p o).journal
  · intro t hp
    exact hp
  · intro p message rest hp _
    have taken : Proceeds [] ({ p with inbox := rest } : Phone).view := hp.of_same rfl rfl
    exact Step.Along.mono (Phone.handle_proceeds taken message) (fun _ hq => hq) fun _ _ _ hq => hq

end CallAudio

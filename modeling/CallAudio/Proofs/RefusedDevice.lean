import CallAudio.Proofs.CarriedOut

/-! A transition whose device the audio service does not offer, or refuses. Its begin falls back to the
baseline, once, and as nothing is pending from then on no later message has more to say about it. -/
namespace CallAudio

/-- The baselines that the message orders by itself. -/
def Message.baselines : Message → List TransitionEvent
  | .switchToBaseline exclude => [.switchToBaseline exclude]
  | _ => []

/-- Without a pending transition the tracker has no outcome, and only orders are announced. -/
theorem Progress.ordered_of_none {v : Progress} (h : v.tracker.pending = none) {message : Message}
    (simple : message.isBegin = false) :
    (v.ordered message).tracker.pending = none ∧
      (v.ordered message).events = v.events ++ message.baselines := by
  have kept {f : TransitionTracker → Option TransitionOutcome × TransitionTracker}
      (hf : f v.tracker = (none, v.tracker)) :
      (v.tracked f).tracker.pending = none ∧ (v.tracked f).events = v.events ++ [] := by
    rw [Progress.tracked_of_unchanged hf, List.append_nil]
    exact ⟨h, rfl⟩
  cases message with
  | beginTransition => cases simple
  | transitionFailed failed => exact kept (TransitionTracker.fail_of_none h failed)
  | transitionTimeout id =>
    apply kept
    apply TransitionTracker.timeOut_of_other
    rw [h]
    nofun
  | switchToBaseline exclude => exact ⟨rfl, rfl⟩
  | _ => exact ⟨h, (List.append_nil _).symm⟩

/-- The choice of a device stands last in a plan, at most after a disconnect. -/
theorem TransitionPlan.between_chooses {active destinationActive : Bool}
    {origin destination : AudioRoute} {before after : List RouteAction} {kind : EndpointKind}
    (h : (between active origin destination destinationActive).actions =
      before ++ .setCommunicationDevice kind :: after) :
    (before = [] ∨ before = [.disconnectBluetooth]) ∧ after = [] := by
  rcases between_cases active origin destination destinationActive with plain | ⟨action, -, one | two⟩
  · have mem : .setCommunicationDevice kind ∈
        (between active origin destination destinationActive).actions := by
      rw [h]
      exact List.mem_append_right _ List.mem_cons_self
    exact absurd List.mem_cons_self (plain _ mem)
  · rw [h] at one
    cases before with
    | nil => exact ⟨Or.inl rfl, (List.cons.inj one).2⟩
    | cons first rest => simp at one
  · rw [h] at two
    match before with
    | [] => simp at two
    | [first] =>
      obtain ⟨rfl, last⟩ := List.cons.inj two
      exact ⟨Or.inr rfl, (List.cons.inj last).2⟩
    | first :: second :: rest => simp at two

namespace Phone

/-- The audio service offers a device of this kind, and lets it be chosen. -/
def grants (kind : EndpointKind) (p : Phone) : Bool :=
  p.platform.audio.available.any (fun d => d.kind = kind) && !p.platform.audio.refuses

/-- The baselines ordered by the message of a turn. -/
def baselinesBy (p : Phone) : Turn → List TransitionEvent
  | .outside _ => []
  | .handle _ => (p.inbox.head?.map Message.baselines).getD []

/-- The baselines ordered by the messages of turns, one after the other. -/
def baselinesAlong (p : Phone) : List Turn → List TransitionEvent
  | [] => []
  | turn :: rest => p.baselinesBy turn ++ (p.turn turn).baselinesAlong rest

variable {p : Phone} {kind : EndpointKind}

/-- A turn that begins nothing, while nothing is pending. -/
theorem turn_unpending (unpending : p.tracker.pending = none) {turn : Turn}
    (simple : p.handles Message.isBegin turn = false) :
    (p.turn turn).tracker.pending = none ∧
      (p.turn turn).progress.events = p.progress.events ++ p.baselinesBy turn := by
  cases turn with
  | outside o =>
    have undisturbed := p.outside_undisturbed o
    have events : Bench.transitionEvents (p.outside o).journal = Bench.transitionEvents p.journal := by
      rw [undisturbed.journal]
    exact ⟨(congrArg TransitionTracker.pending undisturbed.tracker).trans unpending,
      events.trans (List.append_nil _).symm⟩
  | handle pauses =>
    cases hi : p.inbox with
    | nil =>
      have baselines : p.baselinesBy (.handle pauses) = [] := by
        unfold baselinesBy
        rw [hi]
        rfl
      rw [turn_handle_nil hi, baselines, List.append_nil]
      exact ⟨unpending, rfl⟩
    | cons message rest =>
      let q : Phone := { p with inbox := rest }
      have other : message.isBegin = false := handles_of_queued hi simple
      have baselines : p.baselinesBy (.handle pauses) = message.baselines := by
        unfold baselinesBy
        rw [hi]
        rfl
      obtain ⟨ended, events⟩ := Progress.ordered_of_none (v := q.progress) unpending other
      have progress : (q.handled message pauses).progress = q.progress.ordered message := by
        -- Neither the confirmations that it gives nor an attempt that it gives up are heard of.
        rw [q.progress_handled pauses (Message.ne_of_isBegin other), Progress.heard_of_none ended,
          Progress.gaveUp_of_none ended]
      rw [turn_handle hi, baselines]
      refine ⟨?_, ?_⟩
      · exact (congrArg (fun v : Progress => v.tracker.pending) progress).trans ended
      · exact (congrArg Progress.events progress).trans events

theorem turns_unpending (unpending : p.tracker.pending = none) {turns : List Turn}
    (simple : p.handlesNone Message.isBegin turns = true) :
    (p.turns turns).progress.events = p.progress.events ++ p.baselinesAlong turns := by
  induction turns generalizing p with
  | nil => exact (List.append_nil _).symm
  | cons turn rest ih =>
    obtain ⟨first, later⟩ := handlesNone_cons.mp simple
    obtain ⟨unpending', events⟩ := turn_unpending unpending first
    calc ((p.turn turn).turns rest).progress.events
      _ = (p.turn turn).progress.events ++ (p.turn turn).baselinesAlong rest := ih unpending' later
      _ = p.progress.events ++ (p.baselinesBy turn ++ (p.turn turn).baselinesAlong rest) := by
        rw [events, List.append_assoc]

theorem performAll_append (xs ys : List RouteAction) :
    performAll (xs ++ ys) = (do performAll xs; performAll ys) := by
  induction xs with
  | nil => rfl
  | cons action rest ih => simp only [List.cons_append, performAll, ih, bind_assoc]

/-- A device that is not granted fails the transition. -/
theorem setCommunicationKind_refused (h : p.grants kind = false) :
    (p.setCommunicationKind kind).progress = p.progress.tracked (·.fail none) := by
  have failed (platform : Platform) :
      (({ p with platform } : Phone).track (·.fail none)).progress = p.progress.tracked (·.fail none) :=
    progress_track { p with platform } _
  unfold setCommunicationKind
  cases found : p.platform.audio.available.find? fun d => d.kind = kind with
  | none => exact failed p.platform
  | some device =>
    have offered : p.platform.audio.available.any (fun d => d.kind = kind) = true := by
      have same := List.find?_some found
      exact List.any_eq_true.mpr ⟨device, List.mem_of_find?_eq_some found, same⟩
    have refuses : p.platform.audio.refuses = true := by
      unfold grants at h
      rwa [offered, Bool.true_and, Bool.not_eq_false'] at h
    have answer : (p.chooseCommunicationDevice device).1 = false := by
      simp only [chooseCommunicationDevice, AudioService.choose, refuses, ↓reduceIte]
    dsimp only
    rw [answer, if_neg Bool.false_ne_true]
    exact failed _

theorem performAll_refused (h : p.grants kind = false) (pauses : Pauses) :
    ((performAll [.setCommunicationDevice kind] p).finish pauses).phone.progress =
      p.progress.tracked (·.fail none) := by
  let noted := p.record (.performed (.setCommunicationDevice kind))
  have granted : noted.grants kind = false := h
  have same : noted.progress = p.progress := p.progress_record nofun
  have state : p.machine.state = (noted.setCommunicationKind kind).machine.state :=
    (noted.setCommunicationKind_state kind).symm
  have unchanged : (noted.setCommunicationKind kind).onStateChanged p.machine.state =
      noted.setCommunicationKind kind := if_pos state
  change ((noted.setCommunicationKind kind).onStateChanged p.machine.state).progress = _
  rw [unchanged, setCommunicationKind_refused granted, same]

theorem performAll_tornDown (p : Phone) (pauses : Pauses) :
    ((performAll [.disconnectBluetooth] p).finish pauses).phone.progress = p.progress := by
  let torn := (perform .disconnectBluetooth p).finish pauses
  have state : p.machine.state = torn.phone.machine.state :=
    (congrArg Route.state (p.perform_route pauses .disconnectBluetooth nofun)).symm
  have unchanged : torn.phone.onStateChanged p.machine.state = torn.phone := if_pos state
  have ends : ((performAll [.disconnectBluetooth] p).finish pauses).phone =
      torn.phone.onStateChanged p.machine.state := by
    rw [performAll_cons_finish]
    rfl
  rw [ends, unchanged]
  exact p.progress_tornDown pauses

/-- The begin of a transition that is refused its device has the baseline announced, and that is all. -/
theorem begun_refused {origin destination : AudioRoute} {destinationActive : Bool} {ticket : Ticket}
    {pauses : Pauses} {before after : List RouteAction}
    (plan : (p.tracker.begin origin destination destinationActive).2.1 =
      before ++ .setCommunicationDevice kind :: after)
    (refused : ((performAll before ((p.record (.handled (.beginTransition origin destination
      destinationActive ticket))).prepared origin destination destinationActive)).finish
        pauses).phone.grants kind = false) :
    let ended := p.handled (.beginTransition origin destination destinationActive ticket) pauses
    ended.tracker.pending = none ∧
      ended.progress.events = p.progress.events ++ [.switchToBaseline destination.address] := by
  intro ended
  let message : Message := .beginTransition origin destination destinationActive ticket
  let prepared := (p.record (.handled message)).prepared origin destination destinationActive
  let actions := (p.tracker.begin origin destination destinationActive).2.1
  let asked := (performAll before prepared).finish pauses
  let performed := ((performAll actions prepared).finish pauses).phone
  obtain ⟨early, rfl⟩ := TransitionPlan.between_chooses plan
  have asks : asked.phone.progress = prepared.progress := by
    rcases early with rfl | rfl
    · rfl
    · exact prepared.performAll_tornDown pauses
  have fails : performed.progress = prepared.progress.tracked (·.fail none) := by
    have last : performed = ((performAll [.setCommunicationDevice kind] asked.phone).finish
        asked.pauses).phone := by
      change ((performAll (p.tracker.begin origin destination destinationActive).2.1 prepared).finish
        pauses).phone = _
      rw [plan, performAll_append, Job.finish_bind]
    rw [last, performAll_refused refused, asks]
  have unpending : performed.progress.tracker.pending = none := by
    rw [fails]
    exact TransitionTracker.fail_pending _ _
  -- With nothing pending any more there is nothing to settle.
  have ends : ended.progress = performed.progress := by
    have settled : performed.progress.tracked TransitionTracker.settle = performed.progress :=
      Progress.tracked_of_unchanged (TransitionTracker.settle_of_none unpending)
    refine Eq.trans ?_ settled
    change (p.handled message pauses).progress = _
    unfold handled
    rw [handle_begin_eq, Step.finish_bind]
    exact performed.progress_concluded ticket p.tracker.nextId
  constructor
  · exact (congrArg (fun v : Progress => v.tracker.pending) ends).trans unpending
  · rw [ends, fails, p.progress_prepared origin destination destinationActive ticket]
    rfl

end Phone

/-- All along a run a route is announced to be active only once its transition was carried out. And a begin
whose plan chooses a device that the audio service does not grant falls back to the baseline, however its
waits end and whatever tokens it has; as long as nothing else is begun, nothing more is announced than what
messages order by themselves. -/
theorem active_only_when_carried_out (config : RouteConfig) (attached : List Profile)
    (moves : List ThreadMove) :
    let t := (Thread.fresh config attached).run moves
    AnnouncedInTime t.phone.journal ∧
      ∀ origin destination destinationActive ticket rest pauses kind before after later,
        let message : Message := .beginTransition origin destination destinationActive ticket
        let p : Phone := { t.phone with inbox := rest }
        let asked := ((Phone.performAll before ((p.record (.handled message)).prepared origin destination
          destinationActive)).finish pauses).phone
        let begun := t.phone.turn (.handle pauses)
        t.isIdle = true → t.inbox = message :: rest →
          (p.tracker.begin origin destination destinationActive).2.1 =
            before ++ .setCommunicationDevice kind :: after →
          asked.grants kind = false → begun.handlesNone Message.isBegin later = true →
          begun.tracker.pending = none ∧
            Bench.transitionEvents (begun.turns later).journal =
              Bench.transitionEvents t.phone.journal ++
                .switchToBaseline destination.address :: begun.baselinesAlong later := by
  intro t
  refine ⟨(Thread.proceeds_run config attached moves).always fun _ hp => hp.inTime, ?_⟩
  intro origin destination destinationActive ticket rest pauses kind before after later message p asked
    begun _ queued plan refused simple
  obtain ⟨unpending, fellBack⟩ : begun.tracker.pending = none ∧
      begun.progress.events = p.progress.events ++ [.switchToBaseline destination.address] := by
    have turn : begun = p.handled message pauses := Phone.turn_handle queued pauses
    rw [turn]
    exact Phone.begun_refused plan refused
  refine ⟨unpending, ?_⟩
  calc (begun.turns later).progress.events
    _ = begun.progress.events ++ begun.baselinesAlong later := Phone.turns_unpending unpending simple
    _ = p.progress.events ++ .switchToBaseline destination.address :: begun.baselinesAlong later := by
      rw [fellBack, List.append_assoc]
      rfl

/-- The earpiece is offered, and the transition to it resolves at once. The one to a wired headset, which is not
offered, would wait for no token either. -/
theorem active_only_when_carried_out_of_unplugged :
    let earpiece : AudioRoute := ⟨.earpiece, none⟩
    let wired : AudioRoute := ⟨.wiredHeadset, none⟩
    let message : Message := .beginTransition earpiece wired true 1
    let moves : List ThreadMove := [.start,
      .outside (.platform { audio := { available := [⟨1, .earpiece, none⟩] } }),
      .outside (.post (.beginTransition ⟨.speaker, none⟩ earpiece true 0)), .handle,
      .outside (.post message)]
    let pauses : Pauses := fun _ => ⟨true, []⟩
    let later : List Turn := [.outside (.post (.connect none)), .handle pauses]
    let t := (Thread.fresh {} [.classicHeadset]).run moves
    let begun := t.phone.turn (.handle pauses)
    t.isIdle = true ∧ t.inbox = [message] ∧
      CarriedOut t.phone.journal.dropLast earpiece ∧
      (TransitionPlan.between t.phone.tracker.active earpiece wired true).tokens = [] ∧
      begun.tracker.pending = none ∧
      Bench.transitionEvents (begun.turns later).journal =
        [.routeActive earpiece, .switchToBaseline none] := by
  intro earpiece wired message moves pauses later t begun
  have idle : t.isIdle = true := by decide
  have queued : t.inbox = [message] := by decide
  have announced : t.phone.journal = t.phone.journal.dropLast ++
      [⟨.announced (.routeActive earpiece), .audioOff⟩] := by decide
  have told : Bench.transitionEvents t.phone.journal = [.routeActive earpiece] := by decide
  have refused : ((({ t.phone with inbox := [] } : Phone).record (.handled message)).prepared earpiece wired
      true).grants .wiredHeadset = false := by decide
  have plan : (t.phone.tracker.begin earpiece wired true).2.1 = [.setCommunicationDevice .wiredHeadset] := by
    decide
  have untold : (TransitionPlan.between t.phone.tracker.active earpiece wired true).tokens = [] := by decide
  have simple : begun.handlesNone Message.isBegin later = true := by decide
  have ordered : begun.baselinesAlong later = [] := by decide
  have main := active_only_when_carried_out {} [.classicHeadset] moves
  have run : (Thread.fresh {} [.classicHeadset]).run moves = t := rfl
  rw [run] at main
  -- What is known of the thread is enough, so that nothing needs to be computed to apply the theorem.
  clear_value t
  obtain ⟨inTime, falls⟩ := main
  obtain ⟨unpending, events⟩ := falls earpiece wired true 1 [] pauses .wiredHeadset [] [] later idle queued
    plan refused simple
  refine ⟨idle, queued, inTime _ [] earpiece _ announced, untold, unpending, ?_⟩
  exact events.trans (by rw [told, ordered]; rfl)

end CallAudio

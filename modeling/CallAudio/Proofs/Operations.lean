import CallAudio.Proofs.Confirmations
import CallAudio.Proofs.Moves
import CallAudio.Proofs.Services

/-! The route: the state of the machine, and the audio operations that it has asked the platform for.
Most of what the thread does leaves the route alone. -/
namespace CallAudio

def Happening.isOperation : Happening → Bool
  | .audioRequested _ | .audioReleased => true
  | _ => false

/-- The operations that were asked for, oldest first. -/
def audioOperations (journal : List JournalEntry) : List Happening :=
  (journal.map JournalEntry.happening).filter Happening.isOperation

theorem audioOperations_snoc (journal : List JournalEntry) (e : JournalEntry) :
    audioOperations (journal ++ [e]) =
      audioOperations journal ++ if e.happening.isOperation then [e.happening] else [] := by
  unfold audioOperations
  rw [List.map_append, List.filter_append, List.map_singleton, List.filter_singleton, cond_eq_ite]

theorem audioOperations_snoc_of_not (journal : List JournalEntry) {e : JournalEntry}
    (h : e.happening.isOperation = false) :
    audioOperations (journal ++ [e]) = audioOperations journal := by
  rw [audioOperations_snoc, h, if_neg Bool.false_ne_true, List.append_nil]

theorem RouteState.live_cases (s : RouteState) (target : Address) :
    s = .connected target ∨ s = .connecting target ∨ s.liveAddress ≠ some target := by
  cases s with
  | audioOff => exact Or.inr (Or.inr nofun)
  | connecting address =>
    refine Or.inr (Decidable.or_iff_not_imp_left.mpr fun other live => ?_)
    exact other (congrArg connecting (Option.some.inj live))
  | connected address =>
    refine Decidable.or_iff_not_imp_left.mpr fun other => Or.inr fun live => ?_
    exact other (congrArg connected (Option.some.inj live))

@[ext] structure Route where
  state : RouteState
  operations : List Happening

namespace RouteView

def route (v : RouteView) : Route := ⟨v.state, audioOperations v.journal⟩

theorem route_recorded (v : RouteView) {happening : Happening} (h : happening.isOperation = false) :
    (v.recorded happening).route = v.route := by
  have operations : audioOperations (v.recorded happening).journal = audioOperations v.journal :=
    audioOperations_snoc_of_not v.journal h
  exact Route.ext rfl operations

theorem route_tracked (v : RouteView)
    (f : TransitionTracker → Option TransitionOutcome × TransitionTracker) :
    (v.tracked f).route = v.route := by
  refine Route.ext (v.tracked_state f) ?_
  change audioOperations (v.tracked f).journal = audioOperations v.journal
  rcases v.tracked_journal f with hj | ⟨event, hj⟩
  · rw [hj]
  · rw [hj, audioOperations_snoc_of_not _ rfl]

end RouteView

namespace Phone

def route (p : Phone) : Route := p.view.route

variable (p : Phone)

theorem route_of_view {p q : Phone} (h : q.view = p.view) : q.route = p.route :=
  congrArg RouteView.route h

theorem route_record {happening : Happening} (h : happening.isOperation = false) :
    (p.record happening).route = p.route := p.view.route_recorded h

theorem route_recordOperation {happening : Happening} (h : happening.isOperation = true) :
    (p.record happening).route = ⟨p.machine.state, p.route.operations ++ [happening]⟩ := by
  refine Route.ext rfl ?_
  change audioOperations (p.journal ++ [_]) = _
  rw [audioOperations_snoc, if_pos h]
  rfl

theorem route_post (message : Message) : (p.post message).route = p.route := by
  rw [post_eq]
  rfl

theorem route_track (f : TransitionTracker → Option TransitionOutcome × TransitionTracker) :
    (p.track f).route = p.route := by
  unfold route
  rw [view_track, RouteView.route_tracked]

theorem route_onConnectOutcome (outcome : ConnectOutcome) :
    (p.onConnectOutcome outcome).route = p.route :=
  p.onConnectOutcome_untracked RouteView.route_tracked outcome

theorem route_onStateChanged (before : RouteState) : (p.onStateChanged before).route = p.route :=
  p.onStateChanged_untracked RouteView.route_tracked before

theorem route_clearStaleDeadline : p.clearStaleDeadline.route = p.route :=
  route_of_view p.clearStaleDeadline_view

theorem route_onRejected (target : Address) (attempt : Nat) (failure : ConnectFailure) :
    (p.onRejected target attempt failure).route = p.route := by
  unfold onRejected
  dsimp only
  split
  · apply route_of_view
    rw [view_scheduleRetry, view_note]
  · rw [route_post]
    apply route_of_view
    rw [view_dropRetry, view_note]

theorem route_of_undisturbed {p q : Phone} (h : Undisturbed p q) : q.route = p.route := by
  refine Route.ext (congrArg Machine.state h.machine) ?_
  change audioOperations q.journal = audioOperations p.journal
  rw [h.journal]

/-- A move changes the state and asks for nothing. -/
theorem route_moveTo (target : RouteState) :
    (p.moveTo target).route = ⟨target, p.route.operations⟩ := by
  by_cases h : target = p.machine.state
  · rw [moveTo_same p h, h]
    rfl
  · have departed : (p.departed target).route = ⟨target, p.route.operations⟩ := by
      unfold route
      rw [view_departed]
      rfl
    rw [moveTo_eq p h]
    cases target with
    | audioOff => exact (route_record _ rfl).trans departed
    | connecting address => exact departed
    | connected address =>
      have arrived : (p.arrived address).route = ⟨.connected address, p.route.operations⟩ :=
        (route_record _ rfl).trans departed
      exact (route_of_undisturbed (claim_undisturbed _ address)).trans arrived

/-- The request for audio on a device is the last operation, and the release of another device comes
right before it. -/
theorem requestAudio_finish (target : Address) (switching : Bool) (pauses : Pauses) :
    ((requestAudio target switching p).finish pauses).phone.machine = p.machine ∧
      ((requestAudio target switching p).finish pauses).phone.route = ⟨p.machine.state,
        p.route.operations ++ (if switching then [.audioReleased] else []) ++
          [.audioRequested target]⟩ := by
  have requested (q : Phone) (pauses : Pauses) :
      ((connectAudio target switching q).finish pauses).phone.machine = q.machine ∧
        ((connectAudio target switching q).finish pauses).phone.route =
          ⟨q.machine.state, q.route.operations ++ [.audioRequested target]⟩ := by
    have undisturbed := ((connectAudio_undisturbed q target switching).finish pauses).1
    refine ⟨undisturbed.machine, (route_of_undisturbed undisturbed).trans ?_⟩
    exact q.route_recordOperation rfl
  unfold requestAudio
  rw [Job.finish_bind]
  cases switching
  · rw [if_neg Bool.false_ne_true, List.append_nil]
    exact requested p pauses
  · let released := (disconnectAudio p).finish pauses
    have undisturbed : Undisturbed (p.record .audioReleased) released.phone :=
      (p.disconnectAudio_undisturbed.finish pauses).1
    have route : released.phone.route = ⟨p.machine.state, p.route.operations ++ [.audioReleased]⟩ :=
      (route_of_undisturbed undisturbed).trans (p.route_recordOperation rfl)
    have machine : released.phone.machine = p.machine := undisturbed.machine
    obtain ⟨machine', route'⟩ := requested released.phone released.pauses
    refine ⟨machine'.trans machine, route'.trans ?_⟩
    rw [machine, route]
    rfl

/-- Another device is live, so that it is torn down before audio is requested. -/
def isSwitching (target : Address) (p : Phone) : Bool := p.machine.state.liveAddress.any (· ≠ target)

theorem startConnect_eq (target : Address) (attempt : Nat) :
    startConnect target attempt p =
      (requestAudio target (p.isSwitching target) >>= fun result => match result with
        | .ok () => do
          Job.update (tell (.audioConnecting target))
          Job.update (moveTo (.connecting target))
          return .started target
        | .error failure => do
          Job.update (onRejected target attempt failure)
          return .rejected target) p := by
  unfold requestAudio
  rw [bind_assoc]
  rfl

/-- A new request drops the retry of an earlier one. -/
def requested (attempt : Nat) (p : Phone) : Phone := if attempt = 0 then p.dropRetry else p

/-- Dropping a retry changes nothing that a connect looks at. -/
theorem requested_same (attempt : Nat) : (p.requested attempt).services = p.services ∧
    (p.requested attempt).machine.state = p.machine.state ∧
    (p.requested attempt).machine.recent = p.machine.recent ∧
    (p.requested attempt).route = p.route := by
  unfold requested
  split
  · have route : p.dropRetry.route = p.route := route_of_view p.view_dropRetry
    rw [dropRetry_eq] at route ⊢
    exact ⟨rfl, rfl, rfl, route⟩
  · exact ⟨rfl, rfl, rfl, rfl⟩

/-- How a connect ends, given what it is resolved to and from where it has dropped the retry. -/
def connectEnds (requested : Option Address) (attempt : Nat) (pauses : Pauses) (q : Phone) :
    Option Address → Ending ConnectOutcome
  | none => ⟨.noDevice, (q.note (.noDevices requested)).post (.transitionFailed requested), pauses⟩
  | some target =>
    if q.machine.state = .connected target then
      ⟨.reaffirmed target, q.tell (.audioConnected target), pauses⟩
    else if q.machine.state = .connecting target then ⟨.alreadyConnecting target, q, pauses⟩
    else (startConnect target attempt q).finish pauses

section
variable {q : Phone} {requested : Option Address} {attempt : Nat} {pauses : Pauses} {target : Address}

theorem connectEnds_connected (h : q.machine.state = .connected target) :
    q.connectEnds requested attempt pauses (some target) =
      ⟨.reaffirmed target, q.tell (.audioConnected target), pauses⟩ := if_pos h

theorem connectEnds_connecting (h : q.machine.state = .connecting target) :
    q.connectEnds requested attempt pauses (some target) = ⟨.alreadyConnecting target, q, pauses⟩ := by
  have other : q.machine.state ≠ .connected target := by
    rw [h]
    nofun
  exact (if_neg other).trans (if_pos h)

theorem connectEnds_other (h : q.machine.state.liveAddress ≠ some target) :
    q.connectEnds requested attempt pauses (some target) =
      (startConnect target attempt q).finish pauses := by
  have notConnected : q.machine.state ≠ .connected target := fun he => h (he ▸ rfl)
  have notConnecting : q.machine.state ≠ .connecting target := fun he => h (he ▸ rfl)
  exact (if_neg notConnected).trans (if_neg notConnecting)

end

/-- How a connect goes, given what it is resolved to and from where it has dropped the retry. -/
def connectTo (requested : Option Address) (attempt : Nat) (q : Phone) :
    Option Address → Step ConnectOutcome
  | none => .done .noDevice ((q.note (.noDevices requested)).post (.transitionFailed requested))
  | some target =>
    if q.machine.state = .connected target then .done (.reaffirmed target) (q.tell (.audioConnected target))
    else if q.machine.state = .connecting target then .done (.alreadyConnecting target) q
    else startConnect target attempt q

theorem connect_eq (requested : Option Address) (attempt : Nat) :
    let q := p.requested attempt
    connect requested attempt p =
      q.connectTo requested attempt (q.registry.connectTarget requested q.machine.recent) := by
  intro q
  have asked : connect requested attempt p =
      (match q.registry.connectTarget requested q.machine.recent with
        | none => do
          Job.update (note (.noDevices requested))
          Job.update (post (.transitionFailed requested))
          return .noDevice
        | some target =>
          if q.machine.state = .connected target then do
            Job.update (tell (.audioConnected target))
            return .reaffirmed target
          else if q.machine.state = .connecting target then return .alreadyConnecting target
          else startConnect target attempt : Job ConnectOutcome) q := rfl
  rw [asked]
  cases q.registry.connectTarget requested q.machine.recent with
  | none => rfl
  | some target =>
    dsimp only [connectTo]
    split
    · rfl
    · split <;> rfl

theorem retryConnect_eq (address : Address) (attempt : Nat) :
    retryConnect address attempt p =
      if attempt ≤ maxRetries ∧ p.machine.state.liveAddress ≠ some address then
        (connect (some address) attempt p).bind fun outcome q => .done (some outcome) q
      else .done none p := by
  change (if p.machine.state.liveAddress = some address then pure none
    else if maxRetries < attempt then pure none
    else connect (some address) attempt >>= fun outcome => pure (some outcome) :
      Job (Option ConnectOutcome)) p = _
  by_cases live : p.machine.state.liveAddress = some address
  · rw [if_pos live, if_neg fun h => h.2 live]
    rfl
  · by_cases used : maxRetries < attempt
    · rw [if_neg live, if_pos used, if_neg fun h => Nat.not_lt.mpr h.1 used]
      rfl
    · rw [if_neg live, if_neg used, if_pos ⟨Nat.not_lt.mp used, live⟩]
      rfl

theorem connect_finish (requested : Option Address) (attempt : Nat) (pauses : Pauses) :
    let q := p.requested attempt
    (connect requested attempt p).finish pauses =
      q.connectEnds requested attempt pauses (q.registry.connectTarget requested q.machine.recent) := by
  intro q
  rw [connect_eq]
  cases q.registry.connectTarget requested q.machine.recent with
  | none => rfl
  | some target =>
    dsimp only [connectTo, connectEnds]
    split
    · rfl
    · split <;> rfl

theorem startConnect_route (target : Address) (attempt : Nat) (pauses : Pauses) :
    let asked := (requestAudio target (p.isSwitching target) p).finish pauses
    ((startConnect target attempt p).finish pauses).phone.route =
      ⟨if asked.value.isOk then .connecting target else p.machine.state,
        asked.phone.route.operations⟩ := by
  intro asked
  have state : asked.phone.route.state = p.machine.state :=
    congrArg Route.state (p.requestAudio_finish target _ pauses).2
  rw [startConnect_eq, Job.finish_bind]
  change (Step.finish ((match asked.value with
    | .ok () => _
    | .error failure => _ : Job ConnectOutcome) asked.phone) asked.pauses).phone.route = _
  cases asked.value with
  | ok =>
    have told : (asked.phone.tell (.audioConnecting target)).route = asked.phone.route :=
      route_record asked.phone rfl
    refine (route_moveTo _ _).trans ?_
    rw [told]
    rfl
  | error failure => exact (route_onRejected ..).trans (Route.ext state rfl)

end Phone
end CallAudio

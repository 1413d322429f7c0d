import CallAudio.Proofs.Automaton
import CallAudio.Proofs.Throughout

/-! How long a retry is awaited. Without another request it stays armed, or queued once it is due, as long
as the state of the machine is the same, and the first change of the state drops it for good. -/
namespace CallAudio

/-- The state and the retry are left alone. -/
structure Spared (p q : Phone) : Prop where
  state : q.machine.state = p.machine.state
  retry : q.machine.retry = p.machine.retry
  alarms : Alarms.Turnovers (· ≠ .retry) p.alarms q.alarms
  inbox : p.inbox <+: q.inbox
  closed : q.closed = p.closed

namespace Spared

variable {p q : Phone}

theorem of_same (state : q.machine.state = p.machine.state) (alarms : q.alarms = p.alarms)
    (inbox : p.inbox <+: q.inbox) (closed : q.closed = p.closed) : Spared p q :=
  ⟨state, congrArg (fun a => a.held .retry) alarms, .of_eq alarms, inbox, closed⟩

theorem of_undisturbed (h : Undisturbed p q) (ht : q.timers = p.timers) : Spared p q := by
  have alarms : q.alarms = p.alarms := by
    unfold Phone.alarms
    rw [ht, h.machine, h.deadline]
  exact .of_same (congrArg Machine.state h.machine) alarms h.inbox h.closed

theorem track (h : Spared p q)
    (f : TransitionTracker → Option TransitionOutcome × TransitionTracker) : Spared p (q.track f) := by
  rcases q.track_eq f with he | ⟨event, he⟩
  · rw [he]
    exact ⟨h.state, h.retry, h.alarms, h.inbox, h.closed⟩
  · rw [he]
    exact ⟨h.state, h.retry, h.alarms, h.inbox, h.closed⟩

end Spared

/-- Touches that have nothing to do with the retry spare it, except for moves of the machine. -/
theorem Touch.spared {cs : List Concern} {p q : Phone} (h : Touch cs p q) (unasked : .retry ∉ cs) :
    Spared p q ∨ ∃ target, .state ∈ cs ∧ q = p.moveTo target := by
  cases h with
  | moved target mem => exact Or.inr ⟨target, mem, rfl⟩
  | retryDropped mem => exact absurd mem unasked
  | rejected _ _ _ mem => exact absurd mem unasked
  | posted message =>
    exact Or.inl (.of_undisturbed (.post p message) (congrArg Alarms.timers (p.alarms_post message)))
  | made address =>
    have timers := congrArg Alarms.timers (p.alarms_makeCommunicationDevice address)
    exact Or.inl (.of_undisturbed (p.makeCommunicationDevice_undisturbed address) timers)
  | released =>
    refine Or.inl (.of_undisturbed p.releaseCommunicationDevice_undisturbed ?_)
    obtain ⟨platform, h | ⟨address, h⟩⟩ := p.releaseCommunicationDevice_eq
    · rw [h]
    · rw [h, Phone.post_eq]
  | chosen kind =>
    left
    obtain ⟨platform, h⟩ := p.setCommunicationKind_eq kind
    have asked : Spared p { p with platform } := .of_same rfl rfl List.prefix_rfl rfl
    rcases h with h | h
    · rwa [h]
    · rw [h]
      exact asked.track _
  | added device profile =>
    left
    rcases p.onDeviceAdded_eq device profile with h | h <;>
      (rw [h]; exact .of_same rfl rfl List.prefix_rfl rfl)
  | activated profile address =>
    left
    rcases p.onActiveDeviceChanged_eq profile address with h | h | h <;>
      (rw [h]; exact .of_same rfl rfl List.prefix_rfl rfl)
  | begun origin destination destinationActive =>
    left
    -- The deadline of the transition has a slot of its own.
    have kept : Alarms.Turnovers (· ≠ .retry) p.alarms
        ((p.begun origin destination destinationActive).startDeadline p.tracker.nextId).alarms := by
      rw [Phone.alarms_startDeadline]
      exact .single (.kept .deadline _ _ nofun rfl)
    rw [Phone.startDeadline_eq] at kept ⊢
    exact ⟨rfl, rfl, kept, List.prefix_rfl, rfl⟩
  | tracked f =>
    have same : Spared p p := .of_same rfl rfl List.prefix_rfl rfl
    exact Or.inl (same.track f)
  | deadlineDropped =>
    left
    have dropped : Alarms.Turnovers (· ≠ .retry) p.alarms p.dropDeadline.alarms := by
      rw [Phone.alarms_dropDeadline]
      exact .single (.dropped .deadline nofun)
    rw [Phone.dropDeadline_eq] at dropped ⊢
    exact ⟨rfl, rfl, dropped, List.prefix_rfl, rfl⟩
  | _ => exact Or.inl (.of_same rfl rfl List.prefix_rfl rfl)

theorem Touch.spared_of_unmoved {cs : List Concern} {p q : Phone} (h : Touch cs p q)
    (unasked : .retry ∉ cs) (unmoved : .state ∉ cs) : Spared p q := by
  rcases h.spared unasked with spared | ⟨_, mem, -⟩
  · exact spared
  · exact absurd mem unmoved

/-- The thread goes on in one state of the machine. -/
structure Steady (s : RouteState) (p : Phone) : Prop where
  sound : p.alarms.Sound
  opened : p.closed = false
  state : p.machine.state = s

/-- In that state a retry is held, whose timer is armed or has posted its message. -/
structure AwaitsRetry (s : RouteState) (timer : Timer Message) (p : Phone) : Prop extends
    Steady s p where
  held : p.machine.retry = some timer.id
  due : timer ∈ p.timers.armed ∨ timer.value ∈ p.inbox

/-- The retry is still awaited, or it was dropped by a move to another state. -/
def Settled (s : RouteState) (timer : Timer Message) (p : Phone) : Prop :=
  AwaitsRetry s timer p ∨ p.machine.retry = none ∧ p.machine.state ≠ s

section
variable {s : RouteState} {timer : Timer Message} {p q : Phone}

theorem Steady.spared (h : Steady s p) (hs : Spared p q) : Steady s q :=
  ⟨hs.alarms.sound h.sound, hs.closed.trans h.opened, hs.state.trans h.state⟩

theorem Steady.outside (h : Steady s p) (o : Outside) : Steady s (p.outside o) := by
  have undisturbed := p.outside_undisturbed o
  refine ⟨Phone.alarms_sound_outside h.sound o, undisturbed.closed.trans h.opened, ?_⟩
  rw [undisturbed.machine]
  exact h.state

namespace AwaitsRetry

theorem mem_spared (h : AwaitsRetry s timer p) (hs : Spared p q) (mem : timer ∈ p.timers.armed) :
    timer ∈ q.timers.armed :=
  ((hs.alarms.spares h.sound fun hn => hn rfl).armed timer h.held).mpr mem

theorem spared (h : AwaitsRetry s timer p) (hs : Spared p q) : AwaitsRetry s timer q :=
  ⟨h.toSteady.spared hs, hs.retry.trans h.held,
    h.due.imp (h.mem_spared hs) fun queued => hs.inbox.subset queued⟩

theorem outside (h : AwaitsRetry s timer p) (o : Outside) : AwaitsRetry s timer (p.outside o) := by
  have undisturbed := p.outside_undisturbed o
  have held : (p.outside o).machine.retry = p.machine.retry :=
    congrArg Machine.retry undisturbed.machine
  refine ⟨h.toSteady.outside o, held.trans h.held, ?_⟩
  rcases h.due with armed | queued
  · exact Phone.due_outside h.sound h.opened armed o
  · exact Or.inr (undisturbed.inbox.subset queued)

end AwaitsRetry

namespace Phone

/-- A move to another state drops the retry. -/
theorem retry_moveTo (p : Phone) {target : RouteState} (h : target ≠ p.machine.state) :
    (p.moveTo target).machine.retry = none := by
  have departed : (p.departed target).machine.retry = none := by rw [departed_eq]
  rw [moveTo_eq p h]
  cases target with
  | audioOff | connecting => exact departed
  | connected address =>
    have claimed := (p.arrived address).claim_undisturbed address
    exact (congrArg Machine.retry claimed.machine).trans departed

theorem retry_moveTo_of_none (p : Phone) (target : RouteState) (h : p.machine.retry = none) :
    (p.moveTo target).machine.retry = none := by
  by_cases same : target = p.machine.state
  · rwa [moveTo_same p same]
  · exact p.retry_moveTo same

end Phone

theorem AwaitsRetry.moveTo (h : AwaitsRetry s timer p) (target : RouteState) :
    Settled s timer (p.moveTo target) := by
  by_cases same : target = p.machine.state
  · rw [Phone.moveTo_same p same]
    exact Or.inl h
  · refine Or.inr ⟨p.retry_moveTo same, fun back => same ?_⟩
    have state : (p.moveTo target).machine.state = target := congrArg Route.state (p.route_moveTo target)
    rw [← state, back, h.state]

theorem Settled.spared (h : Settled s timer p) (hs : Spared p q) : Settled s timer q := by
  rcases h with awaits | ⟨gone, moved⟩
  · exact Or.inl (awaits.spared hs)
  · refine Or.inr ⟨hs.retry.trans gone, ?_⟩
    rwa [hs.state]

end

/-- In the handling of a message without a request: what is awaited at first is settled at the end. -/
def Job.Settles (s : RouteState) (timer : Timer Message) (job : Job Unit) : Prop :=
  ∀ p, AwaitsRetry s timer p → (job p).Upholds (AwaitsRetry s timer) fun _ q => Settled s timer q

section
variable {α : Type} {s : RouteState} {timer : Timer Message} {cs : List Concern}

theorem Step.Does.awaits {step : Step α} {p : Phone} (h : step.Does cs p) (unasked : .retry ∉ cs)
    (unmoved : .state ∉ cs) (hp : AwaitsRetry s timer p) :
    step.Upholds (AwaitsRetry s timer) fun _ q => AwaitsRetry s timer q := by
  apply h.upholds _ hp
  intro p q touch hp
  exact hp.spared (touch.spared_of_unmoved unasked unmoved)

namespace Job

theorem settles_pure : (pure () : Job Unit).Settles s timer := fun _ hp => Or.inl hp

theorem Does.settles_bind {job : Job α} {next : α → Job Unit} (h : job.Does cs)
    (unasked : .retry ∉ cs) (unmoved : .state ∉ cs) (hn : ∀ value, (next value).Settles s timer) :
    (job >>= next).Settles s timer := by
  intro p hp
  apply Step.Upholds.bind ((h p).awaits unasked unmoved hp)
  intro value q hq
  exact hn value q hq

theorem Does.settles {job : Job Unit} (h : job.Does cs) (unasked : .retry ∉ cs)
    (unmoved : .state ∉ cs) : job.Settles s timer := by
  intro p hp
  apply ((h p).awaits unasked unmoved hp).mono
  intro _ q hq
  exact Or.inl hq

end Job

namespace Phone
open Job

theorem moveToActualState_settles : moveToActualState.Settles s timer := by
  have found : carryingAudio.Does [] := carryingAudio_does
  apply found.settles_bind (by simp) (by simp)
  intro carrier p hp
  cases carrier <;> exact hp.moveTo _

theorem afterLoss_settles (address : Address) (removed : Bool) :
    (afterLoss address removed).Settles s timer := by
  have read : Job.read.Does [] := does_read
  unfold afterLoss
  split
  · have told : (Job.update (tell .deviceListChanged)).Does [] := does_touch fun _ => .recorded _ rfl
    apply told.settles_bind (by simp) (by simp)
    intro _
    apply read.settles_bind (by simp) (by simp)
    intro p
    split
    · exact settles_pure
    · have unused : (Job.update fun p => { p with machine := p.machine.unuse address }).Does
          [.absence address] := does_touch fun _ => .unused address (by simp)
      apply unused.settles_bind (by simp) (by simp)
      intro _
      apply read.settles_bind (by simp) (by simp)
      intro q
      split
      · exact moveToActualState_settles
      · exact settles_pure
  · exact settles_pure

theorem onConnectionTimeout_settles (address : Address) :
    (onConnectionTimeout address).Settles s timer := by
  have read : Job.read.Does [] := does_read
  apply read.settles_bind (by simp) (by simp)
  intro p
  split
  · have noted : (Job.update (note (.timedOut address))).Does [] := does_touch fun _ => .noted _
    exact noted.settles_bind (by simp) (by simp) fun _ => moveToActualState_settles
  · exact settles_pure

theorem onAudioOn_settles (address : Address) : (Job.update (onAudioOn address)).Settles s timer := by
  intro p hp
  change Settled s timer (p.onAudioOn address)
  unfold onAudioOn
  split
  · exact hp.moveTo _
  · exact Or.inl hp

theorem onAudioLost_settles (address : Option Address) : (onAudioLost address).Settles s timer := by
  have read : Job.read.Does [] := does_read
  apply read.settles_bind (by simp) (by simp)
  intro p
  dsimp only
  split
  · exact moveToActualState_settles
  · split
    · exact moveToActualState_settles
    · have noted (entry : HistoryEntry) : (Job.update (note entry)).Does [] :=
        does_touch fun _ => .noted _
      have told : (Job.update (tell .unexpectedStateChange)).Does [] :=
        does_touch fun _ => .recorded _ rfl
      exact (noted _).settles_bind (by simp) (by simp) fun _ => told.settles (by simp) (by simp)

/-- The message is a request to connect or to disconnect, or the begin of a transition that makes one. -/
def Requests (p : Phone) : Message → Prop
  | .connect _ | .retryConnect _ _ | .disconnect => True
  | .beginTransition origin destination destinationActive _ =>
    ∃ action ∈ (p.tracker.begin origin destination destinationActive).2.1,
      action = .disconnectBluetooth ∨ ∃ address, action = .connectBluetooth address
  | _ => False

/-- The begin of a transition that makes no request is about neither the retry nor the state. -/
theorem handle_begin_unasked (p : Phone) {origin destination : AudioRoute} {destinationActive : Bool}
    {ticket : Ticket}
    (quiet : ¬p.Requests (.beginTransition origin destination destinationActive ticket)) :
    (handle (.beginTransition origin destination destinationActive ticket) p).Does
      [.choice, .start origin destination destinationActive]
      (p.record (.handled (.beginTransition origin destination destinationActive ticket))) := by
  apply p.handle_begin_does origin destination destinationActive ticket (by simp)
  intro action mem
  have unasked : ¬(action = .disconnectBluetooth ∨ ∃ address, action = .connectBluetooth address) :=
    fun asks => quiet ⟨action, mem, asks⟩
  cases action with
  | connectBluetooth address => exact absurd (Or.inr ⟨address, rfl⟩) unasked
  | disconnectBluetooth => exact absurd (Or.inl rfl) unasked
  | setCommunicationDevice | clearCommunicationDevice => simp

/-- The handling of a message that is no request does nothing to the retry but through moves. -/
theorem handle_unasked (p : Phone) {message : Message} (quiet : ¬p.Requests message) :
    ∃ cs : List Concern, .retry ∉ cs ∧ (handle message p).Does cs (p.record (.handled message)) := by
  cases message with
  | connect | retryConnect | disconnect => exact absurd trivial quiet
  | beginTransition => exact ⟨_, by simp, handle_begin_unasked p quiet⟩
  | _ => exact ⟨_, by simp, p.handle_does _⟩

theorem act_settles {p : Phone} {message : Message} (quiet : ¬p.Requests message)
    (simple : ∀ origin destination destinationActive ticket,
      message ≠ .beginTransition origin destination destinationActive ticket) :
    (act message).Settles s timer := by
  cases message with
  | connect | retryConnect | disconnect => exact absurd trivial quiet
  | beginTransition => exact absurd rfl (simple _ _ _ _)
  | deviceLost address profile =>
    have removed : (Job.change (removeDevice address profile)).Does [.loss address profile] :=
      does_change fun _ => .removed address profile (by simp)
    rw [act, onDeviceLost_eq]
    exact removed.settles_bind (by simp) (by simp) (afterLoss_settles address)
  | connectionTimeout address => exact onConnectionTimeout_settles address
  | audioOn address => exact onAudioOn_settles address
  | audioLost address => exact onAudioLost_settles address
  | _ => exact (act_does _).settles (by simp) (by simp)

/-- The next message is one that makes a request. -/
def Asks (p : Phone) (turn : Turn) : Prop :=
  ∃ pauses message rest, turn = .handle pauses ∧ p.inbox = message :: rest ∧ p.Requests message

/-- The state of the machine is the same after each of the turns. -/
def Stays (p : Phone) (turns : List Turn) : Prop :=
  ∀ past, past <+: turns → (p.turns past).machine.state = p.machine.state

theorem stays_nil (p : Phone) : p.Stays [] := by
  intro past way
  rw [List.prefix_nil.mp way]
  rfl

theorem stays_concat (p : Phone) (turns : List Turn) (turn : Turn) :
    p.Stays (turns ++ [turn]) ↔
      p.Stays turns ∧ ((p.turns turns).turn turn).machine.state = p.machine.state := by
  rw [← turns_concat]
  constructor
  · intro h
    exact ⟨fun past way => h past (way.trans (List.prefix_append _ _)), h _ List.prefix_rfl⟩
  · rintro ⟨before, last⟩ past way
    rcases List.prefix_concat_iff.mp way with rfl | way
    · exact last
    · exact before past way

theorem retry_turn_of_none {p : Phone} (h : p.machine.retry = none) {turn : Turn}
    (quiet : ¬p.Asks turn) : (p.turn turn).machine.retry = none := by
  have outside (p : Phone) (o : Outside) (h : p.machine.retry = none) :
      (p.outside o).machine.retry = none := by
    rwa [(p.outside_undisturbed o).machine]
  cases turn with
  | outside o => exact outside p o h
  | handle pauses =>
    cases hi : p.inbox with
    | nil => rwa [turn_handle_nil hi]
    | cons message rest =>
      let q : Phone := { p with inbox := rest }
      have unasked : ¬q.Requests message := fun asks => quiet ⟨pauses, message, rest, rfl, hi, asks⟩
      obtain ⟨cs, free, does⟩ := q.handle_unasked unasked
      have kept (p r : Phone) (touch : Touch cs p r) (h : p.machine.retry = none) :
          r.machine.retry = none := by
        rcases touch.spared free with spared | ⟨target, -, rfl⟩
        · exact spared.retry.trans h
        · exact p.retry_moveTo_of_none target h
      have noted : (q.record (.handled message)).machine.retry = none := h
      rw [turn_handle hi]
      exact (does.upholds kept noted).finish outside pauses

end Phone

namespace AwaitsRetry
open Phone

variable {p : Phone}

theorem handle (h : AwaitsRetry s timer p) {message : Message} (quiet : ¬p.Requests message) :
    (handle message p).Upholds (AwaitsRetry s timer) fun _ q => Settled s timer q := by
  have noted : AwaitsRetry s timer (p.record (.handled message)) :=
    h.spared (.of_same rfl rfl List.prefix_rfl rfl)
  -- The begin of a transition accounts for its moves itself, and without a request it makes none.
  by_cases begins : ∃ origin destination destinationActive ticket,
    message = .beginTransition origin destination destinationActive ticket
  · obtain ⟨origin, destination, destinationActive, ticket, rfl⟩ := begins
    apply ((p.handle_begin_unasked quiet).awaits (by simp) (by simp) noted).mono
    intro _ q hq
    exact Or.inl hq
  · have simple (origin destination destinationActive ticket) :
        message ≠ .beginTransition origin destination destinationActive ticket :=
      fun he => begins ⟨_, _, _, _, he⟩
    rw [handle_eq]
    apply (act_settles quiet simple _ noted).bind
    intro _ q hq
    have accounted : Touches [] q (q.accounted message p.machine.state) := q.accounted_touches _ _
    refine accounted.keeps (P := Settled s timer) (fun p q touch settled => ?_) hq
    exact settled.spared (touch.spared_of_unmoved (by simp) (by simp))

/-- A turn without a request settles a retry that is awaited. -/
theorem turn (h : AwaitsRetry s timer p) (hv : timer.value.slot? = some .retry) {turn : Turn}
    (quiet : ¬p.Asks turn) : Settled s timer (p.turn turn) := by
  cases turn with
  | outside o => exact Or.inl (h.outside o)
  | handle pauses =>
    cases hi : p.inbox with
    | nil =>
      rw [turn_handle_nil hi]
      exact Or.inl h
    | cons message rest =>
      let q : Phone := { p with inbox := rest }
      have unasked : ¬q.Requests message := fun asks => quiet ⟨pauses, message, rest, rfl, hi, asks⟩
      -- The message that is taken is not that of the retry, which would be a request.
      have other : timer.value ≠ message := by
        rintro rfl
        cases value : timer.value with
        | retryConnect => exact unasked (by rw [value]; trivial)
        | _ => rw [value] at hv; cases hv
      have popped : AwaitsRetry s timer q := by
        refine ⟨⟨h.sound, h.opened, h.state⟩, h.held, h.due.imp_right fun queued => ?_⟩
        rw [hi] at queued
        exact (List.mem_cons.mp queued).resolve_left other
      rw [turn_handle hi]
      exact (popped.handle unasked).finish (fun _ o hp => hp.outside o) pauses

/-- The retry is awaited as long as the state stays as it is, and dropped for good with the first change
of it. -/
theorem turns (h : AwaitsRetry s timer p) (hv : timer.value.slot? = some .retry) (turns : List Turn)
    (quiet : ∀ past turn, past ++ [turn] <+: turns → ¬(p.turns past).Asks turn) :
    (AwaitsRetry s timer (p.turns turns) ∧ p.Stays turns) ∨
      ((p.turns turns).machine.retry = none ∧ ¬p.Stays turns) := by
  -- From the last turn, as a retry that is gone by then stays gone: only requests schedule one.
  induction turns using List.reverseRecOn with
  | nil => exact Or.inl ⟨h, p.stays_nil⟩
  | append_singleton turns turn ih =>
    have last : ¬(p.turns turns).Asks turn := quiet turns turn List.prefix_rfl
    have before := ih fun past t way => quiet past t (way.trans (List.prefix_append _ _))
    rw [stays_concat, turns_concat]
    rcases before with ⟨awaits, stays⟩ | ⟨gone, moved⟩
    · rcases awaits.turn hv last with still | ⟨gone, moved⟩
      · exact Or.inl ⟨still, stays, still.state.trans h.state.symm⟩
      · refine Or.inr ⟨gone, fun stays => moved ?_⟩
        rw [stays.2, h.state]
    · exact Or.inr ⟨retry_turn_of_none gone last, fun stays => moved stays.1⟩

end AwaitsRetry
end

end CallAudio

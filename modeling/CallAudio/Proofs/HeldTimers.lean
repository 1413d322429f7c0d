import CallAudio.Proofs.Deeds
import CallAudio.Proofs.Moves

/-! What the thread does to its timers: it drops those it holds, or holds new ones, and nothing else
but the passing of time touches them. -/
namespace CallAudio

namespace Phone
open Alarms

def alarms (p : Phone) : Alarms :=
  ⟨p.timers, fun
    | .retry => p.machine.retry
    | .connection => p.machine.connectionTimer
    | .deadline => p.deadline⟩

variable (p : Phone)

theorem alarms_dropRetry : p.dropRetry.alarms = p.alarms.drop .retry := by
  rw [dropRetry_eq]
  refine congrArg (Alarms.mk _) (funext fun s => ?_)
  cases s <;> rfl

theorem alarms_dropConnectionTimer : p.dropConnectionTimer.alarms = p.alarms.drop .connection := by
  unfold dropConnectionTimer
  rw [cancel_eq]
  refine congrArg (Alarms.mk _) (funext fun s => ?_)
  cases s <;> rfl

theorem alarms_dropDeadline : p.dropDeadline.alarms = p.alarms.drop .deadline := by
  rw [dropDeadline_eq]
  refine congrArg (Alarms.mk _) (funext fun s => ?_)
  cases s <;> rfl

theorem alarms_scheduleRetry (target : Address) (attempt : Nat) :
    (p.scheduleRetry target attempt).alarms = p.alarms.keep .retry
      (p.now + (p.config.backoff attempt).toNanos) (.retryConnect target attempt) := by
  rw [scheduleRetry_eq]
  refine congrArg (Alarms.mk _) (funext fun s => ?_)
  cases s <;> rfl

/-- A connection timer is only started where none is held. -/
theorem alarms_startConnectionTimer (target : Address) (h : p.machine.connectionTimer = none) :
    (p.startConnectionTimer target).alarms = p.alarms.keep .connection
      (p.now + p.config.connectionTimeout.toNanos) (.connectionTimeout target) := by
  have unheld : p.alarms.held .connection = none := h
  unfold Alarms.keep
  rw [unheld]
  refine congrArg (Alarms.mk _) (funext fun s => ?_)
  cases s <;> rfl

theorem alarms_startDeadline (id : TransitionId) :
    (p.startDeadline id).alarms = p.alarms.keep .deadline
      (p.now + p.config.transitionTimeout.toNanos) (.transitionTimeout id) := by
  rw [startDeadline_eq]
  refine congrArg (Alarms.mk _) (funext fun s => ?_)
  cases s <;> rfl

theorem alarms_post (message : Message) : (p.post message).alarms = p.alarms := by
  rw [post_eq]
  rfl

theorem alarms_makeCommunicationDevice (address : Address) :
    (p.makeCommunicationDevice address).2.alarms = p.alarms := by
  obtain ⟨platform, communication, h⟩ := p.makeCommunicationDevice_eq address
  rw [h]
  rfl

theorem alarms_track (f : TransitionTracker → Option TransitionOutcome × TransitionTracker) :
    (p.track f).alarms = p.alarms := by
  rcases p.track_eq f with h | ⟨event, h⟩ <;> (rw [h]; rfl)

theorem turnover_dropRetry {among : Slot → Prop} (h : among .retry) :
    Turnovers among p.alarms p.dropRetry.alarms := by
  rw [alarms_dropRetry]
  exact .single (.dropped .retry h)

theorem turnovers_departed (target : RouteState) :
    Turnovers (· ≠ .deadline) p.alarms (p.departed target).alarms := by
  let moved : Phone := { p with machine := { p.machine with state := target } }
  have dropped : Turnovers (· ≠ .deadline) moved.alarms moved.dropRetry.alarms :=
    moved.turnover_dropRetry nofun
  refine dropped.tail ?_
  change Turnover _ moved.dropRetry.alarms moved.dropRetry.dropConnectionTimer.alarms
  rw [alarms_dropConnectionTimer]
  exact .dropped .connection nofun

theorem departed_connectionTimer (target : RouteState) :
    (p.departed target).machine.connectionTimer = none := rfl

theorem alarms_claim (address : Address) : (p.claim address).alarms = p.alarms := by
  have made := p.alarms_makeCommunicationDevice address
  rcases p.claim_eq address with h | h
  · rwa [h]
  · rwa [h, alarms_post]

/-- A move drops the retry and the connection timer, and may start another connection timer. -/
theorem turnovers_moveTo (target : RouteState) :
    Turnovers (· ≠ .deadline) p.alarms (p.moveTo target).alarms := by
  have departed := p.turnovers_departed target
  by_cases h : target = p.machine.state
  · rw [moveTo_same p h]
    exact .refl
  · rw [moveTo_eq p h]
    cases target with
    | audioOff => exact departed
    | connecting address =>
      refine departed.tail ?_
      rw [alarms_startConnectionTimer _ _ (departed_connectionTimer ..)]
      exact .kept .connection _ _ nofun rfl
    | connected address =>
      rw [alarms_claim]
      exact departed

/-- What goes on outside leaves all timers alone but one that is due, whose message it posts. -/
theorem outside_timers (o : Outside) : (p.outside o).timers = p.timers ∨
    ∃ t ∈ p.timers.armed, p.outside o = { p with timers := p.timers.cancel t.id }.post t.value := by
  have intrusion := p.outside_intrusion o
  generalize p.outside o = q at intrusion ⊢
  cases intrusion with
  | around platform registry dispatcher now messages =>
    rw [postAll_eq]
    exact Or.inl rfl
  | fired t _ mem => exact Or.inr ⟨t, mem, rfl⟩

theorem outside_alarms (o : Outside) : (p.outside o).alarms = p.alarms ∨
    ∃ t ∈ p.timers.armed, (p.outside o).alarms = p.alarms.fired t.id := by
  have undisturbed := p.outside_undisturbed o
  rcases p.outside_timers o with ht | ⟨t, mem, ht⟩
  · left
    unfold alarms
    rw [ht, undisturbed.machine, undisturbed.deadline]
  · refine Or.inr ⟨t, mem, ?_⟩
    rw [ht, alarms_post]
    rfl

end Phone

/-- No transition comes to be pending that was not, unless one is begun. -/
theorem TrackerStep.Effect.pending_kept {t t' : TransitionTracker} {step : TrackerStep}
    {outcome : Option TransitionOutcome} (h : Effect t step outcome t')
    (hs : step.isBegin = false) {y : PendingTransition} (hy : t'.pending = some y) :
    ∃ x, t.pending = some x ∧ x.id = y.id := by
  cases h with
  | begun => cases hs
  | kept => exact ⟨y, hy, rfl⟩
  | trimmed c p outstanding hp =>
    obtain rfl := Option.some.inj hy
    exact ⟨p, hp, rfl⟩
  | resolved | failed | dropped => cases hy

/-- The pending transition is one that was pending before. -/
def PendingKept (p q : Phone) : Prop :=
  ∀ y, q.tracker.pending = some y → ∃ x, p.tracker.pending = some x ∧ x.id = y.id

theorem PendingKept.of_eq {p q : Phone} (h : q.tracker = p.tracker) : PendingKept p q :=
  fun y hy => ⟨y, h ▸ hy, rfl⟩

theorem PendingKept.track (p : Phone)
    {f : TransitionTracker → Option TransitionOutcome × TransitionTracker} {step : TrackerStep}
    (hs : step.isBegin = false) (hf : ∀ t, TrackerStep.Effect t step (f t).1 (f t).2) :
    PendingKept p (p.track f) := by
  have tracker : (p.track f).tracker = (f p.tracker).2 :=
    (congrArg RouteView.tracker (p.view_track f)).trans (RouteView.tracked_tracker _ _)
  intro y hy
  rw [tracker] at hy
  exact (hf p.tracker).pending_kept hs hy

/-- Two deeds turn over the deadline: the begin of a transition, and dropping it when none is pending.
All others leave the deadline alone and begin no transition. -/
theorem Deed.sorts {m : Message} {p q : Phone} (h : Deed m p q) :
    (Alarms.Turnovers (· ≠ .deadline) p.alarms q.alarms ∧ PendingKept p q) ∨
      (∃ origin destination destinationActive, q =
        (p.begun origin destination destinationActive).startDeadline p.tracker.nextId) ∨
      (p.tracker.pending = none ∧ q = p.dropDeadline) := by
  cases h with
  | posted message => exact Or.inl ⟨.of_eq (p.alarms_post message), .of_eq (p.aside_post message).tracker⟩
  | moved target => exact Or.inl ⟨p.turnovers_moveTo target, .of_eq (p.aside_moveTo target).tracker⟩
  | retryDropped =>
    exact Or.inl ⟨p.turnover_dropRetry nofun, .of_eq (congrArg RouteView.tracker p.view_dropRetry)⟩
  | retryScheduled target attempt =>
    have kept : Alarms.Turnovers (· ≠ .deadline) p.alarms (p.scheduleRetry target attempt).alarms := by
      rw [Phone.alarms_scheduleRetry]
      exact .single (.kept .retry _ _ nofun rfl)
    exact Or.inl ⟨kept, .of_eq (congrArg RouteView.tracker (p.view_scheduleRetry target attempt))⟩
  | begun origin destination destinationActive => exact Or.inr (Or.inl ⟨_, _, _, rfl⟩)
  | tracked f step hs hf => exact Or.inl ⟨.of_eq (p.alarms_track f), .track p hs hf⟩
  | abandoned =>
    refine Or.inl ⟨.of_eq rfl, fun y hy => ?_⟩
    cases hy
  | deadlineDropped hn => exact Or.inr (Or.inr ⟨hn, rfl⟩)
  | _ => exact Or.inl ⟨.of_eq rfl, .of_eq rfl⟩

theorem Deed.turnovers {m : Message} {p q : Phone} (h : Deed m p q) :
    Alarms.Turnovers (fun _ => True) p.alarms q.alarms := by
  rcases h.sorts with ⟨ht, -⟩ | ⟨origin, destination, destinationActive, rfl⟩ | ⟨-, rfl⟩
  · refine Relation.ReflTransGen.mono (fun _ _ step => ?_) _ _ ht
    cases step with
    | dropped s => exact .dropped s trivial
    | kept s due message _ hm => exact .kept s due message trivial hm
  · rw [Phone.alarms_startDeadline]
    exact .single (.kept .deadline _ _ trivial rfl)
  · rw [Phone.alarms_dropDeadline]
    exact .single (.dropped .deadline trivial)

namespace Phone

variable {p : Phone}

theorem alarms_sound_outside (h : p.alarms.Sound) (o : Outside) : (p.outside o).alarms.Sound := by
  rcases p.outside_alarms o with ha | ⟨t, -, ha⟩
  · rwa [ha]
  · rw [ha]
    exact h.fired t.id

theorem armed_outside (o : Outside) : (p.outside o).timers.armed ⊆ p.timers.armed := by
  rcases p.outside_timers o with same | ⟨t, -, fired⟩
  · rw [same]
    exact List.Subset.refl _
  · rw [fired, post_eq]
    intro timer armed
    exact List.mem_of_mem_filter armed

/-- A timer that is armed stays so until it fires, which posts its message. -/
theorem due_outside (h : p.alarms.Sound) (opened : p.closed = false) {timer : Timer Message}
    (armed : timer ∈ p.timers.armed) (o : Outside) :
    timer ∈ (p.outside o).timers.armed ∨ timer.value ∈ (p.outside o).inbox := by
  rcases p.outside_timers o with same | ⟨t, mem, fired⟩
  · rw [same]
    exact Or.inl armed
  · rw [fired, post_eq]
    by_cases same : timer.id = t.id
    · obtain rfl := List.inj_on_of_nodup_map h.nodup armed mem same
      right
      change timer.value ∈ if p.closed then p.inbox else p.inbox ++ [timer.value]
      rw [opened, if_neg Bool.false_ne_true]
      exact List.mem_append_right _ (List.mem_singleton.mpr rfl)
    · exact Or.inl (List.mem_filter.mpr ⟨armed, decide_eq_true same⟩)

end Phone
end CallAudio

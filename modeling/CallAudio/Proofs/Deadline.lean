import CallAudio.Proofs.HeldTimers
import CallAudio.Proofs.StaleFailure

/-! The deadline of a transition. As long as a transition is pending it holds a deadline of its own,
which is armed or waits to be handled, so it cannot stay pending for good. -/
namespace CallAudio

/-- A deadline that passed ends the transition it belongs to, and no other. -/
theorem TransitionTracker.timeOut_pending {t : TransitionTracker} {id : TransitionId}
    {x : PendingTransition} (h : (t.timeOut id).2.pending = some x) :
    t.pending = some x ∧ x.id ≠ id := by
  unfold timeOut at h
  split at h
  · rename_i hn
    exact absurd (hn.symm.trans h) nofun
  · rename_i y hy
    split at h
    · unfold fail at h
      rw [hy] at h
      cases h
    · rename_i hne
      obtain rfl := Option.some.inj (hy.symm.trans h)
      exact ⟨hy, hne⟩

namespace Phone

/-- The deadline of the pending transition is armed, or it passed and is still to be handled. -/
def Guarded (p : Phone) : Prop :=
  ∀ x, p.tracker.pending = some x → ∃ d, p.deadline = some d ∧
    (∀ t ∈ p.timers.armed, t.id = d → t.value = .transitionTimeout x.id) ∧
    ((∃ t ∈ p.timers.armed, t.id = d) ∨ .transitionTimeout x.id ∈ p.inbox)

/-- What is known of the deadline at any time. -/
structure Watched (p : Phone) : Prop where
  sound : p.alarms.Sound
  opened : p.closed = false
  guarded : p.Guarded

variable {p q : Phone} {m : Message}

/-- The pending transition keeps its deadline wherever that is left alone. -/
theorem Guarded.of_spares (h : p.Guarded)
    (hp : PendingKept p q)
    (hs : Alarms.Spares .deadline p.alarms q.alarms) (hi : p.inbox ⊆ q.inbox) : q.Guarded := by
  intro y hy
  obtain ⟨x, hx, hxy⟩ := hp y hy
  obtain ⟨d, hd, carried, live⟩ := h x hx
  have armed (t : Timer Message) (ht : t.id = d) : t ∈ q.timers.armed ↔ t ∈ p.timers.armed :=
    hs.armed t (by rw [ht]; exact hd)
  refine ⟨d, hs.held.trans hd, fun t mem ht => ?_, ?_⟩
  · rw [← hxy]
    exact carried t ((armed t ht).mp mem) ht
  · rw [← hxy]
    rcases live with ⟨t, mem, ht⟩ | queued
    · exact Or.inl ⟨t, (armed t ht).mpr mem, ht⟩
    · exact Or.inr (hi queued)

/-- A transition that is begun is given a deadline at once. -/
theorem guarded_begun (h : p.alarms.Sound) (origin destination : AudioRoute)
    (destinationActive : Bool) :
    ((p.begun origin destination destinationActive).startDeadline p.tracker.nextId).Guarded := by
  let b := p.begun origin destination destinationActive
  let due := b.now + b.config.transitionTimeout.toNanos
  let id := p.tracker.nextId
  have alarms : (b.startDeadline id).alarms = p.alarms.keep .deadline due (.transitionTimeout id) :=
    b.alarms_startDeadline id
  have tracker : (b.startDeadline id).tracker = b.tracker :=
    congrArg RouteView.tracker (b.view_startDeadline id)
  have timers := congrArg Alarms.timers alarms
  have new := h.mem_keep .deadline due (.transitionTimeout id)
  have sound : (b.startDeadline id).alarms.Sound := by
    rw [alarms]
    exact h.keep .deadline due rfl
  intro x hx
  rw [tracker] at hx
  obtain rfl := Option.some.inj hx
  have mem : (⟨p.timers.nextId, due, .transitionTimeout id⟩ : Timer Message) ∈
      (b.startDeadline id).timers.armed := by
    change _ ∈ (b.startDeadline id).alarms.timers.armed
    rw [alarms]
    exact new
  refine ⟨p.timers.nextId, rfl, fun t ht he => ?_, Or.inl ⟨_, mem, rfl⟩⟩
  -- Numbers are given once, so no other timer has the number of the new one.
  obtain rfl := List.inj_on_of_nodup_map sound.nodup ht mem he
  rfl

theorem inbox_of_deed (h : Deed m p q) : p.inbox <+: q.inbox ∧ q.closed = p.closed := by
  have same {r : Phone} (hi : r.inbox = p.inbox) (hc : r.closed = p.closed) :
      p.inbox <+: r.inbox ∧ r.closed = p.closed := ⟨hi ▸ List.prefix_rfl, hc⟩
  cases h with
  | posted message => exact ⟨(p.aside_post message).inbox, (p.aside_post message).closed⟩
  | moved target => exact ⟨(p.aside_moveTo target).inbox, (p.aside_moveTo target).closed⟩
  | retryDropped =>
    rw [dropRetry_eq]
    exact same rfl rfl
  | retryScheduled target attempt =>
    rw [scheduleRetry_eq]
    exact same rfl rfl
  | begun =>
    rw [startDeadline_eq]
    exact same rfl rfl
  | tracked f =>
    rcases p.track_eq f with h | ⟨event, h⟩ <;> (rw [h]; exact same rfl rfl)
  | deadlineDropped =>
    rw [dropDeadline_eq]
    exact same rfl rfl
  | _ => exact same rfl rfl

theorem Watched.deed (h : p.Watched) (hd : Deed m p q) : q.Watched := by
  obtain ⟨inbox, closed⟩ := inbox_of_deed hd
  refine ⟨hd.turnovers.sound h.sound, closed.trans h.opened, ?_⟩
  rcases hd.sorts with ⟨turnovers, pending⟩ | ⟨origin, destination, destinationActive, rfl⟩ | ⟨none, rfl⟩
  · exact h.guarded.of_spares pending (turnovers.spares h.sound fun hn => hn rfl) inbox.subset
  · exact guarded_begun h.sound origin destination destinationActive
  · intro x hx
    have tracker : p.dropDeadline.tracker = p.tracker := congrArg RouteView.tracker p.view_dropDeadline
    rw [tracker, none] at hx
    cases hx

theorem Watched.outside (h : p.Watched) (o : Outside) : (p.outside o).Watched := by
  have undisturbed := p.outside_undisturbed o
  have pending : PendingKept p (p.outside o) := .of_eq undisturbed.tracker
  refine ⟨alarms_sound_outside h.sound o, undisturbed.closed.trans h.opened, fun y hy => ?_⟩
  obtain ⟨x, hx, hxy⟩ := pending y hy
  obtain ⟨d, hd, carried, live⟩ := h.guarded x hx
  rw [← hxy]
  refine ⟨d, undisturbed.deadline.trans hd, fun u hu he => carried u (armed_outside o hu) he, ?_⟩
  rcases live with ⟨u, hu, he⟩ | queued
  · rcases due_outside h.sound h.opened hu o with armed | posted
    · exact Or.inl ⟨u, armed, he⟩
    · rw [carried u hu he] at posted
      exact Or.inr posted
  · exact Or.inr (undisturbed.inbox.subset queued)

/-- A deadline that is held belongs to a pending transition. -/
def Tidy (p : Phone) : Prop := p.tracker.pending = none → p.deadline = none

/-- Where no stale deadline is held there is nothing to clear. -/
theorem Tidy.clearStaleDeadline_eq (h : p.Tidy) : p.clearStaleDeadline = p := by
  unfold clearStaleDeadline
  split
  · rename_i hn
    have deadline : p.deadline = none := h (Option.isNone_iff_eq_none.mp hn)
    obtain ⟨_⟩ := p
    dsimp only at deadline
    subst deadline
    rfl
  · rfl

theorem track_of_unchanged {f : TransitionTracker → Option TransitionOutcome × TransitionTracker}
    (h : f p.tracker = (none, p.tracker)) : p.track f = p := by
  unfold track
  rw [h]
  rfl

theorem clearStaleDeadline_tidy (p : Phone) : p.clearStaleDeadline.Tidy := by
  unfold clearStaleDeadline
  split
  · exact fun _ => rfl
  · rename_i h
    exact fun hn => absurd (Option.isNone_iff_eq_none.mpr hn) h

/-- A stale deadline is cleared at the end of every message. -/
theorem handled_tidy (p : Phone) (message : Message) (pauses : Pauses) :
    (p.handled message pauses).Tidy := by
  rw [handled_eq]
  unfold accounted
  split <;> exact clearStaleDeadline_tidy _

theorem track_machine (p : Phone)
    (f : TransitionTracker → Option TransitionOutcome × TransitionTracker) :
    (p.track f).machine = p.machine := by
  rcases p.track_eq f with h | ⟨event, h⟩
  · rw [h]
  · rw [h]
    rfl

/-- What is done for a deadline that passed. -/
theorem handle_transitionTimeout (p : Phone) (id : TransitionId) :
    handle (.transitionTimeout id) p = .done ()
      ((p.record (.handled (.transitionTimeout id))).track (·.timeOut id)).clearStaleDeadline := by
  let q := (p.record (.handled (.transitionTimeout id))).track (·.timeOut id)
  have machine : q.machine = p.machine := track_machine (p.record _) _
  have same : q.onStateChanged p.machine.state = q := by
    unfold onStateChanged
    dsimp only
    rw [machine, if_pos rfl]
  change Step.done () (q.onStateChanged p.machine.state).clearStaleDeadline = _
  rw [same]

/-- Taking a message from the inbox and, if it is a deadline, giving up its transition. -/
def taken (p : Phone) (message : Message) (rest : List Message) : Phone :=
  let q := { p with inbox := rest }.record (.handled message)
  match message with
  | .transitionTimeout id => q.track (·.timeOut id)
  | _ => q

/-- A message that the pending transition does not wait for can be taken from the inbox. -/
theorem Watched.popped (h : p.Watched) {message : Message} {rest : List Message}
    (hi : p.inbox = message :: rest)
    (hm : ∀ x, p.tracker.pending = some x → message ≠ .transitionTimeout x.id) :
    ({ p with inbox := rest } : Phone).Watched := by
  refine ⟨h.sound, h.opened, fun x hx => ?_⟩
  obtain ⟨d, hd, carried, live⟩ := h.guarded x hx
  refine ⟨d, hd, carried, live.imp_right fun queued => ?_⟩
  rw [hi] at queued
  exact (List.mem_cons.mp queued).resolve_left (Ne.symm (hm x hx))

theorem track_inbox (p : Phone) (inbox : List Message)
    (f : TransitionTracker → Option TransitionOutcome × TransitionTracker) :
    ({ p with inbox } : Phone).track f = { p.track f with inbox } := by
  unfold track report
  dsimp only
  split <;> rfl

/-- When a deadline is taken from the inbox, the transition that waits for it is over. -/
theorem Watched.taken (h : p.Watched) {message : Message} {rest : List Message}
    (hi : p.inbox = message :: rest) : (p.taken message rest).Watched := by
  let q := p.record (.handled message)
  have noted : q.Watched := ⟨h.sound, h.opened, h.guarded⟩
  by_cases hb : ∃ id, message = .transitionTimeout id
  · obtain ⟨id, rfl⟩ := hb
    have tracked : (q.track (·.timeOut id)).Watched :=
      noted.deed (m := .transitionTimeout id)
        (.tracked _ (.timeOut id) rfl fun t => TrackerStep.effect t (.timeOut id))
    have inbox : (q.track (·.timeOut id)).inbox = .transitionTimeout id :: rest :=
      (congrArg RouteView.inbox (q.view_track _)).trans ((RouteView.tracked_inbox _ _).trans hi)
    have tracker : (q.track (·.timeOut id)).tracker = (p.tracker.timeOut id).2 :=
      (congrArg RouteView.tracker (q.view_track _)).trans (RouteView.tracked_tracker _ _)
    have popped := tracked.popped inbox fun x hx => by
      rw [tracker] at hx
      have other : x.id ≠ id := (TransitionTracker.timeOut_pending hx).2
      exact fun he => other (Message.transitionTimeout.inj he).symm
    rwa [← track_inbox] at popped
  · have taken : p.taken message rest = { q with inbox := rest } := by
      unfold Phone.taken
      split
      · exact absurd ⟨_, rfl⟩ hb
      · rfl
    rw [taken]
    exact noted.popped hi fun x _ he => hb ⟨x.id, he⟩

theorem taken_course (p : Phone) (message : Message) (rest : List Message) (pauses : Pauses) :
    Course (fun _ => True) message (p.taken message rest)
      (({ p with inbox := rest } : Phone).handled message pauses) := by
  by_cases hb : ∃ id, message = .transitionTimeout id
  · obtain ⟨id, rfl⟩ := hb
    unfold handled
    rw [handle_transitionTimeout]
    exact clearStaleDeadline_course _
  · have taken : p.taken message rest = ({ p with inbox := rest } : Phone).record (.handled message) := by
      unfold Phone.taken
      split
      · exact absurd ⟨_, rfl⟩ hb
      · rfl
    rw [taken]
    exact handled_course _ message fun _ _ _ => trivial

theorem Watched.turn (h : p.Watched) (t : Turn) : (p.turn t).Watched := by
  cases t with
  | outside o => exact h.outside o
  | handle pauses =>
    cases hi : p.inbox with
    | nil =>
      rwa [turn_handle_nil hi]
    | cons message rest =>
      rw [turn_handle hi]
      exact (p.taken_course message rest pauses).keeps (fun _ _ deed watched => watched.deed deed)
        (fun _ o _ watched => watched.outside o) (h.taken hi)

theorem Tidy.turn (h : p.Tidy) (t : Turn) : (p.turn t).Tidy := by
  cases t with
  | outside o =>
    have undisturbed := p.outside_undisturbed o
    change (p.outside o).Tidy
    unfold Tidy
    rwa [undisturbed.tracker, undisturbed.deadline]
  | handle pauses =>
    cases hi : p.inbox with
    | nil =>
      rwa [turn_handle_nil hi]
    | cons message rest =>
      rw [turn_handle hi]
      exact handled_tidy _ message pauses

theorem watched_start (config : RouteConfig) (attached : List Profile) :
    (start config attached).Watched :=
  ⟨⟨nofun, nofun, fun _ mem => absurd mem List.not_mem_nil, List.nodup_nil⟩, rfl, fun _ hx => nomatch hx⟩

/-- What is known of the deadline between messages. -/
theorem Reaches.watched {config : RouteConfig} {attached : List Profile} {ok : Outside → Prop}
    (h : Reaches ok (start config attached) p) : p.Watched ∧ p.Tidy :=
  ⟨h.keeps (watched_start config attached) fun _ t _ watched => watched.turn t,
    h.keeps (fun _ => rfl) fun _ t _ tidy => tidy.turn t⟩

/-- The armed deadlines of transitions. -/
def deadlines (p : Phone) : List (Timer Message) :=
  p.timers.armed.filter fun t => t.value.slot? = some .deadline

/-- No two deadlines are armed, as one place holds them all. -/
theorem Watched.deadlines_cases (h : p.Watched) : p.deadlines = [] ∨
    ∃ t ∈ p.timers.armed, p.deadline = some t.id ∧ p.deadlines = [t] := h.sound.armed_cases .deadline

end Phone

/-- A pending transition holds one deadline, which is its own and is armed or waits to be handled; no
other deadline is armed. Without a pending transition no deadline is held or armed. -/
structure DeadlineHeld (p : Phone) : Prop where
  pending : ∀ x, p.tracker.pending = some x → ∃ d, p.deadline = some d ∧
    ((∃ due, p.deadlines = [⟨d, due, .transitionTimeout x.id⟩]) ∨
      p.deadlines = [] ∧ .transitionTimeout x.id ∈ p.inbox)
  none : p.tracker.pending = none → p.deadline = none ∧ p.deadlines = []

theorem Phone.Watched.deadlineHeld {p : Phone} (h : p.Watched) (tidy : p.Tidy) : DeadlineHeld p := by
  refine ⟨fun x hx => ?_, fun hn => ⟨tidy hn, ?_⟩⟩
  · obtain ⟨d, hd, carried, live⟩ := h.guarded x hx
    refine ⟨d, hd, ?_⟩
    rcases h.deadlines_cases with none | ⟨t, mem, held, one⟩
    · -- The deadline that is held is not armed, so it has passed.
      refine Or.inr ⟨none, live.resolve_left fun ⟨t, mem, ht⟩ => ?_⟩
      have value : t.value = .transitionTimeout x.id := carried t mem ht
      have listed : t ∈ p.deadlines :=
        List.mem_filter.mpr ⟨mem, decide_eq_true (congrArg Message.slot? value)⟩
      rw [none] at listed
      cases listed
    · obtain rfl : d = t.id := Option.some.inj (hd.symm.trans held)
      have value : t.value = .transitionTimeout x.id := carried t mem rfl
      refine Or.inl ⟨t.due, ?_⟩
      rw [one, ← value]
  · rcases h.deadlines_cases with none | ⟨t, -, held, -⟩
    · exact none
    · exact absurd ((tidy hn).symm.trans held) nofun

/-- Between messages a pending transition always has a live deadline of its own, and the deadline of
any other transition is handled without a trace. -/
theorem pending_transition_has_deadline (config : RouteConfig) (attached : List Profile)
    (moves : List ThreadMove) :
    let t := (Thread.fresh config attached).run moves
    t.isIdle = true → DeadlineHeld t.phone ∧
      ∀ id rest, t.phone.tracker.pending.map PendingTransition.id ≠ some id →
        t.inbox = .transitionTimeout id :: rest →
        (t.move .handle).phone =
          ({ t.phone with inbox := rest } : Phone).record (.handled (.transitionTimeout id)) := by
  intro t idle
  obtain ⟨watched, tidy⟩ := (Thread.reaches_fresh_run config attached moves idle).watched
  refine ⟨watched.deadlineHeld tidy, fun id rest other queued => ?_⟩
  let p := ({ t.phone with inbox := rest } : Phone).record (.handled (.transitionTimeout id))
  have moved : (t.move .handle).phone = (p.track (·.timeOut id)).clearStaleDeadline := by
    rw [Thread.move_handle idle queued, Phone.handle_transitionTimeout]
    rfl
  have tracked : p.track (·.timeOut id) = p :=
    Phone.track_of_unchanged (TransitionTracker.timeOut_of_other _ id other)
  have tidy' : p.Tidy := tidy
  rw [moved, tracked, tidy'.clearStaleDeadline_eq]

/-- A transition that waits for its headset, and a deadline of another one that is queued. -/
theorem pending_transition_has_deadline_of_headset :
    let headset : Address := ⟨10, 0, 0, 0, 0, 1⟩
    let stale : TransitionId := ⟨7⟩
    let moves : List ThreadMove := [.start,
      .outside (.post (.deviceAdded ⟨headset, .audioSink⟩ .classicHeadset)),
      .outside (.post (.beginTransition ⟨.earpiece, none⟩ ⟨.bluetoothSco, some headset⟩ true 0)),
      .outside (.post (.transitionTimeout stale)), .handle, .handle]
    let t := (Thread.fresh {} [.classicHeadset]).run moves
    t.isIdle = true ∧ t.phone.tracker.pending.isSome = true ∧ DeadlineHeld t.phone ∧
      t.inbox = [.transitionTimeout stale] ∧
      (t.move .handle).phone =
        ({ t.phone with inbox := [] } : Phone).record (.handled (.transitionTimeout stale)) := by
  intro headset stale moves t
  have idle : t.isIdle = true := by decide
  have queued : t.inbox = [.transitionTimeout stale] := by decide
  have other : t.phone.tracker.pending.map PendingTransition.id ≠ some stale := by decide
  have pending : t.phone.tracker.pending.isSome = true := by decide
  have main := pending_transition_has_deadline {} [.classicHeadset] moves
  -- The run is named in the theorem as well, so that nothing needs to be computed to apply it.
  have run : (Thread.fresh {} [.classicHeadset]).run moves = t := rfl
  rw [run] at main
  exact ⟨idle, pending, (main idle).1, queued, (main idle).2 stale [] other queued⟩

end CallAudio

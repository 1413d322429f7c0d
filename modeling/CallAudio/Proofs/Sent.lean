import CallAudio.Proofs.HeldTimers
import CallAudio.Proofs.Stretches
import CallAudio.Proofs.Throughout

/-! All that was ever posted to the route thread, in order. The messages of a timer come from the timer
that fired. -/
namespace CallAudio

/-- Nothing is handled meanwhile, and only what the thread posts to itself at once is posted. -/
structure Reports (p q : Phone) : Prop where
  handled : handledMessages q.journal = handledMessages p.journal
  inbox : ∃ reports, q.inbox = p.inbox ++ reports ∧ ∀ message ∈ reports, message.isReport = true

namespace Reports

variable {p q r : Phone}

theorem trans (h : Reports p q) (h' : Reports q r) : Reports p r := by
  obtain ⟨reports, inbox, only⟩ := h.inbox
  obtain ⟨reports', inbox', only'⟩ := h'.inbox
  refine ⟨h'.handled.trans h.handled, reports ++ reports', ?_, fun message mem => ?_⟩
  · rw [inbox', inbox, List.append_assoc]
  · exact (List.mem_append.mp mem).elim (only message) (only' message)

theorem of_handled (hj : handledMessages q.journal = handledMessages p.journal)
    (hi : q.inbox = p.inbox) : Reports p q :=
  ⟨hj, [], hi.trans (List.append_nil _).symm, List.forall_mem_nil _⟩

theorem of_view (h : q.view = p.view) : Reports p q :=
  of_handled (congrArg (fun v => handledMessages v.journal) h) (congrArg RouteView.inbox h)

theorem refl (p : Phone) : Reports p p := of_view rfl

theorem record (p : Phone) {happening : Happening} (h : happening.message? = none) :
    Reports p (p.record happening) := by
  refine of_handled ((handledMessages_snoc _ _ _).trans ?_) rfl
  rw [h, Option.toList_none, List.append_nil]

theorem post (p : Phone) {message : Message} (h : message.isReport = true) :
    Reports p (p.post message) := by
  unfold Phone.post
  split
  · exact refl p
  · exact ⟨rfl, [message], rfl, fun _ mem => List.mem_singleton.mp mem ▸ h⟩

theorem track (p : Phone) (f : TransitionTracker → Option TransitionOutcome × TransitionTracker) :
    Reports p (p.track f) := by
  refine of_handled ?_ ?_
  · exact (congrArg (fun v => handledMessages v.journal) (p.view_track f)).trans
      (handledMessages_tracked _ f)
  · exact (congrArg RouteView.inbox (p.view_track f)).trans (p.view.tracked_inbox f)

theorem claim (p : Phone) (address : Address) : Reports p (p.claim address) := by
  have made : Reports p (p.makeCommunicationDevice address).2 :=
    of_view (p.view_makeCommunicationDevice address)
  rcases p.claim_eq address with h | h
  · rwa [h]
  · rw [h]
    exact made.trans (post _ rfl)

theorem moveTo (p : Phone) (target : RouteState) : Reports p (p.moveTo target) := by
  by_cases same : target = p.machine.state
  · rw [Phone.moveTo_same p same]
    exact refl p
  · have departed : Reports p (p.departed target) := by
      rw [Phone.departed_eq]
      exact of_handled rfl rfl
    rw [Phone.moveTo_eq p same]
    apply departed.trans
    cases target with
    | audioOff => exact record _ rfl
    | connecting address => exact of_handled rfl rfl
    | connected address =>
      have arrived : Reports (p.departed (.connected address)) (p.arrived address) :=
        of_handled ((handledMessages_snoc _ _ _).trans (List.append_nil _)) rfl
      exact arrived.trans (claim _ address)

end Reports

theorem Deed.reports {m : Message} {p q : Phone} (h : Deed m p q) : Reports p q := by
  cases h with
  | recorded happening h => exact .record p h
  | posted message report => exact .post p report
  | moved target => exact .moveTo p target
  | retryDropped => exact .of_view p.view_dropRetry
  | retryScheduled target attempt => exact .of_view (p.view_scheduleRetry target attempt)
  | begun origin destination destinationActive =>
    have begun : Reports p (p.begun origin destination destinationActive) :=
      .of_handled ((handledMessages_snoc _ _ _).trans (List.append_nil _)) rfl
    exact begun.trans (.of_view (Phone.view_startDeadline _ _))
  | tracked f => exact .track p f
  | abandoned exclude => exact .of_handled ((handledMessages_snoc _ _ _).trans (List.append_nil _)) rfl
  | deadlineDropped => exact .of_view p.view_dropDeadline
  | _ => exact .of_view rfl

theorem Touches.reports {m : Message} {p q : Phone} (h : Touches m.concerns p q) : Reports p q :=
  h.keeps_deeds (fun _ _ deed way => way.trans deed.reports) (.refl p)

/-- Messages of this kind are posted by their timers only. -/
def Outside.SparesSlot (s : Slot) : Outside → Prop
  | .post message => message.slot? ≠ some s
  | _ => True

namespace Thread

/-- All messages that have been posted, oldest first. -/
def sent (t : Thread) : List Message := t.handled ++ t.inbox

/-- Where the messages that a move posts come from. -/
inductive Source (t : Thread) (m : ThreadMove) (posted : List Message) : Prop
  | other (h : ∀ message ∈ posted, m = .outside (.post message) ∨ message.slot? = none)
  | fired (timer : Timer Message) (hm : m = .outside (.fire timer.id))
      (armed : timer ∈ t.phone.timers.armed) (h : posted = [timer.value])

variable {t : Thread}

/-- What goes on outside handles nothing, and what it posts is queued. -/
theorem outside_sent (t : Thread) (o : Outside) : ∃ posted,
    (t.move (.outside o)).sent = t.sent ++ posted ∧ t.Source (.outside o) posted := by
  -- Nothing can be posted once the thread is gone.
  have queued {p : Phone} {posted : List Message} (hj : p.journal = t.phone.journal)
      (hi : p.inbox = if t.phone.closed then t.phone.inbox else t.phone.inbox ++ posted)
      (source : t.Source (.outside o) posted) : ∃ posted,
      handledMessages p.journal ++ p.inbox = t.sent ++ posted ∧ t.Source (.outside o) posted := by
    rw [hj, hi]
    cases t.phone.closed
    · exact ⟨posted, (List.append_assoc ..).symm, source⟩
    · exact ⟨[], (List.append_nil _).symm, .other (List.forall_mem_nil _)⟩
  have intrusion := t.phone.outside_intrusion o
  change ∃ posted, handledMessages (t.phone.outside o).journal ++ (t.phone.outside o).inbox = _ ∧ _
  generalize t.phone.outside o = q at intrusion ⊢
  cases intrusion with
  | around platform registry dispatcher now messages _ hm =>
    rw [Phone.postAll_eq]
    exact queued rfl rfl (.other fun message mem => (hm message mem).imp_left (congrArg _))
  | fired timer ho armed =>
    rw [Phone.post_eq]
    exact queued rfl rfl (.fired timer (ho ▸ rfl) armed rfl)

theorem Doing.sent_move (h : t.Doing) {m : ThreadMove} (running : m ≠ .stop) : ∃ posted,
    (t.move m).sent = t.sent ++ posted ∧ t.Source m posted := by
  have reported {p q : Phone} (way : Reports p q) (hp : handledMessages p.journal ++ p.inbox = t.sent) :
      ∃ posted, handledMessages q.journal ++ q.inbox = t.sent ++ posted ∧ t.Source m posted := by
    obtain ⟨reports, inbox, only⟩ := way.inbox
    refine ⟨reports, ?_, .other fun message mem => Or.inr ?_⟩
    · rw [way.handled, inbox, ← List.append_assoc, hp]
    · have report := only message mem
      cases message <;> first | rfl | cases report
  obtain ⟨-, stretch⟩ := h.stretch m
  change ∃ posted, handledMessages (t.move m).phone.journal ++ (t.move m).phone.inbox = _ ∧ _
  generalize (t.move m).phone = q at stretch ⊢
  cases stretch with
  | still => exact reported (.refl _) rfl
  | outside o => exact t.outside_sent o
  | stopped => exact absurd rfl running
  | taken idle queued touches =>
    refine reported touches.reports ?_
    change handledMessages (t.phone.journal ++ [_]) ++ _ =
      handledMessages t.phone.journal ++ t.phone.inbox
    rw [handledMessages_snoc, queued, List.append_assoc]
    rfl
  | resumed touches => exact reported touches.reports rfl

theorem Doing.sent_run (h : t.Doing) {moves : List ThreadMove} (running : .stop ∉ moves) :
    t.sent <+: (t.run moves).sent := by
  induction moves generalizing t with
  | nil => exact List.prefix_rfl
  | cons m rest ih =>
    obtain ⟨first, others⟩ := not_or.mp (mt List.mem_cons.mpr running)
    obtain ⟨posted, sent, -⟩ := h.sent_move (Ne.symm first)
    exact (sent ▸ List.prefix_append t.sent posted).trans (ih (h.stretch m).1 others)

theorem Doing.sent_prefix (h : t.Doing) {moves : List ThreadMove} (running : .stop ∉ moves)
    {before after : List ThreadMove} (hb : before <+: after) (ha : after <+: moves) : (t.run before).sent <+: (t.run after).sent := by
  obtain ⟨rest, rfl⟩ := hb
  rw [run_append]
  exact (h.run before).sent_run fun mem => running (ha.subset (List.mem_append_right _ mem))

/-- A timer that fires during a run. -/
structure Firing (t : Thread) (moves : List ThreadMove) where
  earlier : List ThreadMove
  timer : Timer Message
  later : List ThreadMove
  split : moves = earlier ++ .outside (.fire timer.id) :: later
  armed : timer ∈ (t.run earlier).phone.timers.armed
  posted : (t.run (earlier ++ [.outside (.fire timer.id)])).sent =
    (t.run earlier).sent ++ [timer.value]

/-- The thread as it was before the timer fired. -/
def Firing.before {moves : List ThreadMove} (f : Firing t moves) : Thread := t.run f.earlier

/-- The firing in a run that goes on. -/
def Firing.extend {moves : List ThreadMove} (f : Firing t moves) (m : ThreadMove) :
    Firing t (moves ++ [m]) :=
  { f with
    later := f.later ++ [m]
    split := (congrArg (· ++ [m]) f.split).trans (List.append_assoc ..) }

/-- Where only timers post messages of a kind, each such message was posted when its timer fired. -/
theorem Doing.fired (h : t.Doing) {moves : List ThreadMove} (running : .stop ∉ moves) {s : Slot}
    (timed : ∀ m ∈ moves, m.Only (Outside.SparesSlot s)) {message : Message}
    (hs : message.slot? = some s) (new : message ∉ t.sent) {before after : List Message}
    (sent : (t.run moves).sent = before ++ message :: after) :
    ∃ f : Firing t moves, f.before.sent = before ∧ f.timer.value = message := by
  induction moves using List.reverseRecOn generalizing after with
  | nil =>
    have mem : message ∈ t.sent := by
      rw [show t.sent = _ from sent]
      exact List.mem_append_right _ List.mem_cons_self
    exact absurd mem new
  | append_singleton moves m ih =>
    have running' : .stop ∉ moves := fun mem => running (List.mem_append_left _ mem)
    have timed' : ∀ m ∈ moves, m.Only (Outside.SparesSlot s) := fun m mem =>
      timed m (List.mem_append_left _ mem)
    have last : m ≠ .stop := fun he => running (List.mem_append_right _ (he ▸ List.mem_cons_self))
    let u := t.run moves
    obtain ⟨posted, moved, source⟩ := (h.run moves).sent_move last
    rw [run_concat, moved] at sent
    have now (more : List Message) (hb : before = u.sent ++ more)
        (hp : posted = more ++ message :: after) :
        ∃ f : Firing t (moves ++ [m]), f.before.sent = before ∧ f.timer.value = message := by
      have mem : message ∈ posted := hp ▸ List.mem_append_right _ List.mem_cons_self
      rcases source with other | ⟨timer, rfl, armed, single⟩
      · rcases other message mem with rfl | none
        · exact absurd hs (timed _ (List.mem_append_right _ List.mem_cons_self))
        · exact absurd (hs.symm.trans none) nofun
      · obtain rfl : message = timer.value := List.mem_singleton.mp (single ▸ mem)
        obtain rfl : more = [] := by
          have length := congrArg List.length (single.symm.trans hp)
          simp only [List.length_append, List.length_cons, List.length_nil] at length
          exact List.length_eq_zero_iff.mp (by omega)
        refine ⟨⟨moves, timer, [], rfl, armed, ?_⟩, (List.append_nil _ ▸ hb).symm, rfl⟩
        rw [run_concat, moved, single]
    rcases List.append_eq_append_iff.mp sent with ⟨more, hb, hp⟩ | ⟨more, hu, hp⟩
    · exact now more hb hp
    · cases more with
      | nil => exact now [] (hu.trans (List.append_nil _) ▸ (List.append_nil _).symm) hp.symm
      | cons first more =>
        obtain ⟨rfl, rfl⟩ := List.cons.inj hp
        obtain ⟨f, hf, value⟩ := ih running' timed' hu
        exact ⟨f.extend m, hf, value⟩

end Thread
end CallAudio

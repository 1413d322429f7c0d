import CallAudio.Proofs.Queue
import CallAudio.Proofs.Transition.Effect

/-! Failures that were queued before a transition was begun. A failure carries no number, so it ends
whichever transition is pending when it is handled. -/
namespace CallAudio

def begunCount (journal : List JournalEntry) : Nat := journal.countP fun e => e.happening.isBegun

theorem begunCount_snoc (journal : List JournalEntry) (e : JournalEntry) :
    begunCount (journal ++ [e]) =
      begunCount journal + if e.happening.isBegun then 1 else 0 := by
  rw [begunCount, List.countP_append, List.countP_singleton]
  rfl

theorem begunCount_snoc_of_not {journal : List JournalEntry} {e : JournalEntry}
    (h : e.happening.isBegun = false) : begunCount (journal ++ [e]) = begunCount journal := by
  rw [begunCount_snoc, h, if_neg Bool.false_ne_true, Nat.add_zero]

/-- What the thread makes the tracker do is a step of the tracker that begins nothing. -/
theorem Licensed.effect {v : RouteView}
    {f : TransitionTracker → Option TransitionOutcome × TransitionTracker} (h : Licensed v f) :
    ∃ step, step.isBegin = false ∧
      TrackerStep.Effect v.tracker step (f v.tracker).1 (f v.tracker).2 := by
  cases h with
  | settle => exact ⟨.settle, rfl, TrackerStep.effect _ .settle⟩
  | fail failed => exact ⟨.fail failed, rfl, TrackerStep.effect _ (.fail failed)⟩
  | timeOut id => exact ⟨.timeOut id, rfl, TrackerStep.effect _ (.timeOut id)⟩
  | received c => exact ⟨.confirm c, rfl, TrackerStep.effect _ (.confirm c)⟩
  | own id signal address =>
    exact ⟨.confirm ⟨id, signal, some address⟩, rfl, TrackerStep.effect _ (.confirm _)⟩

/-- As long as no further transition is begun, the pending one is `T` with fewer tokens. -/
structure Follows (n : Nat) (T : PendingTransition) (v : RouteView) : Prop where
  count : n < begunCount v.journal
  same : begunCount v.journal = n + 1 → ∀ p, v.tracker.pending = some p →
    ∃ outstanding, p = { T with outstanding }

namespace Follows

variable {n : Nat} {T : PendingTransition} {v w : RouteView}

theorem of_count (h : Follows n T v) (hj : begunCount w.journal = begunCount v.journal)
    (hp : ∀ p, w.tracker.pending = some p →
      ∃ q outstanding, v.tracker.pending = some q ∧ p = { q with outstanding }) :
    Follows n T w := by
  refine ⟨hj ▸ h.count, fun hn p hw => ?_⟩
  obtain ⟨q, outstanding, hv, rfl⟩ := hp p hw
  obtain ⟨before, rfl⟩ := h.same (hj.symm.trans hn) q hv
  exact ⟨outstanding, rfl⟩

theorem recorded (h : Follows n T v) {e : JournalEntry} (hj : w.journal = v.journal ++ [e])
    (hb : e.happening.isBegun = false) (ht : w.tracker = v.tracker) : Follows n T w := by
  apply h.of_count (by rw [hj, begunCount_snoc_of_not hb])
  intro p hp
  exact ⟨p, p.outstanding, ht ▸ hp, rfl⟩

theorem machine (h : Follows n T v) (hm : MachineStride v w) : Follows n T w := by
  cases hm with
  | quiet hq =>
    cases hq with
    | post => exact ⟨h.count, h.same⟩
    | record happening hh =>
      exact h.recorded rfl (Happening.isBegun_of_isQuiet hh) rfl
  | off | connecting | connected | reaffirmed => exact h.recorded rfl rfl rfl

theorem tracked (h : Follows n T v)
    {f : TransitionTracker → Option TransitionOutcome × TransitionTracker} (hf : Licensed v f) :
    Follows n T (v.tracked f) := by
  have hj : begunCount (v.tracked f).journal = begunCount v.journal := by
    rcases v.tracked_journal f with hj | ⟨event, hj⟩
    · rw [hj]
    · rw [hj, begunCount_snoc_of_not rfl]
  apply h.of_count hj
  intro p hp
  rw [RouteView.tracked_tracker] at hp
  obtain ⟨step, hs, he⟩ := hf.effect
  generalize (f v.tracker).2 = t at he hp
  generalize (f v.tracker).1 = outcome at he
  cases he with
  | begun => cases hs
  | kept => exact ⟨p, p.outstanding, hp, rfl⟩
  | trimmed c q outstanding hq =>
    obtain rfl := Option.some.inj hp
    exact ⟨q, outstanding, hq, rfl⟩
  | resolved | failed | dropped => cases hp

theorem stride (h : Follows n T v) (hs : Stride v w) : Follows n T w := by
  cases hs with
  | machine hm => exact h.machine hm
  | taken => exact h.recorded rfl rfl rfl
  | begun origin destination destinationActive =>
    -- One more was begun, so the count is past the only one that anything is claimed for.
    have hc : begunCount (v.begun origin destination destinationActive).journal =
        begunCount v.journal + 1 := begunCount_snoc _ _
    have hv := h.count
    exact ⟨by omega, fun hn => absurd hn (by omega)⟩
  | tracked f hf => exact h.tracked hf
  | abandoned exclude =>
    apply h.of_count (begunCount_snoc_of_not rfl)
    intro p hp
    cases hp

end Follows

theorem Phone.view_handle_transitionFailed (p : Phone) (failed : Option Address) :
    ∃ q, handle (.transitionFailed failed) p = .done () q ∧
      q.view = (p.view.recorded (.handled (.transitionFailed failed))).tracked (·.fail failed) := by
  let q := (p.record (.handled (.transitionFailed failed))).track (·.fail failed)
  have hq : q.view =
      (p.view.recorded (.handled (.transitionFailed failed))).tracked (·.fail failed) :=
    view_track _ _
  have hs : p.machine.state = q.machine.state := by
    have hs := congrArg RouteView.state hq
    exact (hs.trans (RouteView.tracked_state _ _)).symm
  have same : q.onStateChanged p.machine.state = q := by
    unfold onStateChanged
    exact if_pos hs
  refine ⟨(q.onStateChanged p.machine.state).clearStaleDeadline, rfl, ?_⟩
  rw [same, clearStaleDeadline_view]
  exact hq

namespace Thread

theorem move_handle {t : Thread} {message : Message} {rest : List Message}
    (hi : t.isIdle = true) (hq : t.phone.inbox = message :: rest) :
    let w := Work.ofStep (Phone.handle message { t.phone with inbox := rest })
    t.move .handle = ⟨w.2, .running w.1⟩ := by
  obtain ⟨value, hl⟩ : ∃ value, t.loop = .running (.finished value) := by
    unfold isIdle at hi
    split at hi
    · exact ⟨_, ‹_›⟩
    · cases hi
  change t.handleNext?.getD t = _
  unfold handleNext?
  simp only [hl, hq, Option.getD_some]

/-- Handling a begin leads on from where its transition is the pending one. -/
theorem onward_begin {t : Thread} {origin destination : AudioRoute} {destinationActive : Bool}
    {ticket : Ticket} {older : List Message} (hi : t.isIdle = true)
    (hq : t.phone.inbox = .beginTransition origin destination destinationActive ticket :: older) :
    (t.move .handle).Onward ((({ t.phone with inbox := older } : Phone).record (.handled
      (.beginTransition origin destination destinationActive ticket))).begun
        origin destination destinationActive) := by
  rw [move_handle hi hq]
  exact onward_of_step (Phone.handle_begin_along _ origin destination destinationActive ticket)

theorem view_move_transitionFailed {t : Thread} {failed : Option Address} {rest : List Message}
    (hi : t.isIdle = true) (hq : t.phone.inbox = .transitionFailed failed :: rest) :
    (t.move .handle).phone.view =
      ({ t.phone.view with inbox := rest }.recorded
        (.handled (.transitionFailed failed))).tracked (·.fail failed) := by
  obtain ⟨q, hs, hv⟩ :=
    Phone.view_handle_transitionFailed { t.phone with inbox := rest } failed
  rw [move_handle hi hq, hs]
  exact hv

end Thread

/-- Handling a failure leaves no transition pending, and sends the one that was to the baseline. -/
theorem RouteView.fail_tracked (v : RouteView) (failed : Option Address) :
    (v.tracked (·.fail failed)).tracker.pending = none ∧
      ∀ p, v.tracker.pending = some p → (v.tracked (·.fail failed)).journal = v.journal ++
        [⟨.announced (.switchToBaseline (failed.or p.destination.address)), v.state⟩] := by
  rcases v.tracker.fail_cases failed with ⟨hn, hs⟩ | ⟨p, hp, hs⟩
  · rw [tracked_of_unchanged hs]
    exact ⟨hn, fun p hp => absurd (hn.symm.trans hp) nofun⟩
  · refine ⟨?_, fun q hq => ?_⟩
    · rw [tracked_tracker]
      simp only [hs]
    · obtain rfl := Option.some.inj (hp.symm.trans hq)
      unfold tracked
      simp only [hs]
      rfl

namespace Thread

def begunCount (t : Thread) : Nat := CallAudio.begunCount t.phone.journal

/-- The transition begun as number `n`, counted from zero, is pending. -/
def HasPending (t : Thread) (n : Nat) : Prop :=
  t.phone.tracker.pending.isSome = true ∧ t.begunCount = n + 1

instance (t : Thread) (n : Nat) : Decidable (t.HasPending n) :=
  inferInstanceAs (Decidable (_ ∧ _))

end Thread

/-- From the begin of a transition on, the messages queued behind it are handled in order, and the
transition is the pending one unless another is begun. -/
theorem after_begin {t : Thread} {origin destination : AudioRoute} {destinationActive : Bool}
    {ticket : Ticket} {older : List Message} {moves : List ThreadMove} {k : Nat}
    (idle : t.isIdle = true)
    (queued : t.phone.inbox =
      .beginTransition origin destination destinationActive ticket :: older)
    (idle' : (t.run (.handle :: moves)).isIdle = true)
    (reached : (t.run (.handle :: moves)).handled =
      t.handled ++ .beginTransition origin destination destinationActive ticket :: older.take k) :
    (∃ posted, (t.run (.handle :: moves)).phone.inbox = older.drop k ++ posted) ∧
      ∃ T : PendingTransition, T.destination = destination ∧
        Follows t.begunCount T (t.run (.handle :: moves)).phone.view := by
  let message : Message := .beginTransition origin destination destinationActive ticket
  let p := (({ t.phone with inbox := older } : Phone).record (.handled message)).begun
    origin destination destinationActive
  have way : Via Stride p (t.run (.handle :: moves)).phone :=
    (Thread.onward_run (Thread.onward_begin idle queued) moves).via_of_idle idle'
  refine ⟨?_, ?_⟩
  · -- On the way to `p` only the begin itself is handled.
    have begun : handledMessages p.journal = t.handled ++ [message] := by
      change handledMessages ((t.phone.journal ++ [_]) ++ [_]) = _
      rw [handledMessages_snoc, handledMessages_snoc]
      exact List.append_nil _
    apply way.inbox_of_handled
    rw [begun, List.append_assoc]
    exact reached
  · have count : begunCount p.journal = t.begunCount + 1 := by
      change begunCount ((t.phone.journal ++ [_]) ++ [_]) = _
      rw [begunCount_snoc, begunCount_snoc_of_not rfl]
      rfl
    have pending : ∃ T, p.view.tracker.pending = some T ∧ T.destination = destination :=
      ⟨_, rfl, rfl⟩
    obtain ⟨T, hT, hd⟩ := pending
    refine ⟨T, hd, way.keeps (fun _ _ stride follows => follows.stride stride)
      ⟨?_, fun _ q hq => ?_⟩⟩
    · change _ < begunCount p.journal
      omega
    · obtain rfl := Option.some.inj (hT.symm.trans hq)
      exact ⟨T.outstanding, rfl⟩

/-- A failure that was queued when a transition was begun ends that transition if it is still pending
when the failure is handled; it spares the transition only if that is over by then. -/
theorem stale_failure_spares_iff (config : RouteConfig) (attached : List Profile)
    (past moves : List ThreadMove) (origin destination : AudioRoute) (destinationActive : Bool)
    (ticket : Ticket) (older : List Message) (k : Nat) (failed : Option Address) :
    let t := (Thread.fresh config attached).run past
    let before := t.run (.handle :: moves)
    let after := before.move .handle
    let message : Message := .beginTransition origin destination destinationActive ticket
    t.isIdle = true → t.inbox = message :: older →
      older[k]? = some (.transitionFailed failed) → before.isIdle = true →
      before.handled = t.handled ++ message :: older.take k →
      after.handled = before.handled ++ [.transitionFailed failed] ∧
        ((before.HasPending t.begunCount → after.HasPending t.begunCount) ↔
          ¬before.HasPending t.begunCount) ∧
        (before.HasPending t.begunCount → after.phone.journal = before.phone.journal ++
          [⟨.handled (.transitionFailed failed), before.phone.machine.state⟩,
            ⟨.announced (.switchToBaseline (failed.or destination.address)),
              before.phone.machine.state⟩]) := by
  intro t before after message idle queued stale idle' reached
  obtain ⟨⟨posted, inbox⟩, T, hd, follows⟩ := after_begin idle queued idle' reached
  obtain ⟨hk, hfailed⟩ := List.getElem?_eq_some_iff.mp stale
  -- What was queued behind the begin is handled in order, so by then the failure is the next message.
  have next : before.phone.inbox = .transitionFailed failed :: (older.drop (k + 1) ++ posted) := by
    rw [inbox, List.drop_eq_getElem_cons hk, hfailed, List.cons_append]
  let taken := { before.phone.view with inbox := older.drop (k + 1) ++ posted }.recorded
    (.handled (.transitionFailed failed))
  have view : after.phone.view = taken.tracked (·.fail failed) :=
    Thread.view_move_transitionFailed idle' next
  obtain ⟨none, baseline⟩ := taken.fail_tracked failed
  -- Whatever was pending, nothing is pending after a failure.
  have ended : ¬after.HasPending t.begunCount := by
    have tracker := (congrArg (fun v => v.tracker.pending) view).trans none
    change after.phone.tracker.pending = Option.none at tracker
    rw [Thread.HasPending, tracker]
    exact fun h => Bool.false_ne_true h.1
  refine ⟨?_, ⟨fun h hb => ended (h hb), fun hb h => absurd h hb⟩, fun hb => ?_⟩
  · have handled := congrArg (fun v => handledMessages v.journal) view
    refine handled.trans ((handledMessages_tracked _ _).trans ?_)
    exact handledMessages_snoc _ _ _
  · obtain ⟨p, hp⟩ := Option.isSome_iff_exists.mp hb.1
    obtain ⟨outstanding, rfl⟩ := follows.same hb.2 p hp
    have journal := (congrArg RouteView.journal view).trans (baseline _ hp)
    rw [← hd]
    exact journal.trans (List.append_assoc ..)

/-- A connect to a device that is not there fails before another transition is begun. -/
theorem stale_failure_spares_iff_after_connect :
    let other : Address := ⟨10, 0, 0, 0, 0, 2⟩
    let headset : Address := ⟨10, 0, 0, 0, 0, 1⟩
    let message : Message :=
      .beginTransition ⟨.earpiece, none⟩ ⟨.bluetoothSco, some headset⟩ true 0
    let past : List ThreadMove := [.outside (.post (.connect (some other))),
      .outside (.event (.event (.connectionChanged .classicHeadset ⟨headset, .audioSink⟩ .connected))),
      .outside (.post message), .start, .handle, .handle]
    let t := (Thread.fresh {} [.classicHeadset]).run past
    let before := t.run [.handle]
    let after := before.move .handle
    t.isIdle = true ∧ t.inbox = [message, .transitionFailed (some other)] ∧
      before.isIdle = true ∧ before.handled = t.handled ++ [message] ∧
      ((before.HasPending t.begunCount → after.HasPending t.begunCount) ↔
        ¬before.HasPending t.begunCount) := by
  intro other headset message past t before after
  have idle : t.isIdle = true := by decide
  have queued : t.inbox = [message, .transitionFailed (some other)] := by decide
  have idle' : before.isIdle = true := by decide
  have reached : before.handled = t.handled ++ [message] := by decide
  have spares := stale_failure_spares_iff {} [.classicHeadset] past [] ⟨.earpiece, none⟩
    ⟨.bluetoothSco, some headset⟩ true 0 [.transitionFailed (some other)] 0 (some other) idle queued
    rfl idle' reached
  exact ⟨idle, queued, idle', reached, spares.2.1⟩

/-- The failed connect to one device ends the transition to another that was begun after it. -/
theorem stale_failure_ends_newer_transition :
    let other : Address := ⟨10, 0, 0, 0, 0, 2⟩
    let headset : Address := ⟨10, 0, 0, 0, 0, 1⟩
    let message : Message :=
      .beginTransition ⟨.earpiece, none⟩ ⟨.bluetoothSco, some headset⟩ true 0
    let past : List ThreadMove := [.outside (.post (.connect (some other))),
      .outside (.event (.event (.connectionChanged .classicHeadset ⟨headset, .audioSink⟩ .connected))),
      .outside (.post message), .start, .handle, .handle]
    let t := (Thread.fresh {} [.classicHeadset]).run past
    let before := t.run [.handle]
    let after := before.move .handle
    t.inbox = [message, .transitionFailed (some other)] ∧
      before.HasPending t.begunCount ∧ ¬after.HasPending t.begunCount ∧
      Bench.transitionEvents after.phone.journal = [.switchToBaseline (some other)] := by
  decide

end CallAudio

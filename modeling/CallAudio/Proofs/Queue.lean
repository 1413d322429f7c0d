import CallAudio.Proofs.RunStrides

/-! The inbox is a queue: messages are handled in the order in which they were posted. -/
namespace CallAudio

def Happening.message? : Happening → Option Message
  | .handled message => some message
  | _ => none

def handledMessages (journal : List JournalEntry) : List Message :=
  journal.filterMap fun e => e.happening.message?

theorem handledMessages_snoc (journal : List JournalEntry) (happening : Happening)
    (state : RouteState) : handledMessages (journal ++ [⟨happening, state⟩]) =
      handledMessages journal ++ happening.message?.toList := by
  rw [handledMessages, List.filterMap_append]
  cases happening <;> rfl

theorem handledMessages_tracked (v : RouteView)
    (f : TransitionTracker → Option TransitionOutcome × TransitionTracker) :
    handledMessages (v.tracked f).journal = handledMessages v.journal := by
  rcases v.tracked_journal f with hj | ⟨event, hj⟩
  · rw [hj]
  · rw [hj, handledMessages_snoc]
    exact List.append_nil _

/-- What was queued and what is posted later make up what is handled and what is queued then. -/
def InOrder (v w : RouteView) : Prop :=
  ∃ seen posted, handledMessages w.journal = handledMessages v.journal ++ seen ∧
    v.inbox ++ posted = seen ++ w.inbox

namespace InOrder

variable {v w u : RouteView}

theorem refl (v : RouteView) : InOrder v v := ⟨[], [], (List.append_nil _).symm, List.append_nil _⟩

theorem trans (h : InOrder v w) (h' : InOrder w u) : InOrder v u := by
  obtain ⟨seen, posted, hj, hi⟩ := h
  obtain ⟨seen', posted', hj', hi'⟩ := h'
  refine ⟨seen ++ seen', posted ++ posted', ?_, ?_⟩
  · rw [hj', hj, List.append_assoc]
  · rw [← List.append_assoc, hi, List.append_assoc, hi', List.append_assoc]

theorem of_same (hj : handledMessages w.journal = handledMessages v.journal)
    (hi : w.inbox = v.inbox) : InOrder v w :=
  ⟨[], [], by rw [hj, List.append_nil], by rw [hi, List.append_nil, List.nil_append]⟩

theorem of_recorded (happening : Happening) (h : happening.message? = none) :
    InOrder v (v.recorded happening) := by
  refine of_same ?_ rfl
  exact (handledMessages_snoc _ _ _).trans (by rw [h, Option.toList_none, List.append_nil])

theorem of_machine (h : MachineStride v w) : InOrder v w := by
  cases h with
  | quiet hq =>
    cases hq with
    | post message => exact ⟨[], [message], (List.append_nil _).symm, rfl⟩
    | record happening hh =>
      exact of_recorded happening (by cases happening <;> first | rfl | cases hh)
  | off | connecting | connected | reaffirmed =>
    exact of_same ((handledMessages_snoc _ _ _).trans (List.append_nil _)) rfl

theorem of_stride (h : Stride v w) : InOrder v w := by
  cases h with
  | machine hm => exact of_machine hm
  | taken message rest hi =>
    refine ⟨[message], [], handledMessages_snoc _ _ _, ?_⟩
    rw [List.append_nil, hi]
    rfl
  | begun | abandoned =>
    exact of_same ((handledMessages_snoc _ _ _).trans (List.append_nil _)) rfl
  | tracked f => exact of_same (handledMessages_tracked v f) (v.tracked_inbox f)

end InOrder

theorem Via.in_order {p q : Phone} (h : Via Stride p q) : InOrder p.view q.view :=
  h.keeps (fun _ _ stride order => order.trans (InOrder.of_stride stride)) (InOrder.refl _)

/-- Of the messages queued at first those not handled yet come before all others. -/
theorem Via.inbox_of_handled {p q : Phone} (h : Via Stride p q) {k : Nat}
    (hj : handledMessages q.journal = handledMessages p.journal ++ p.inbox.take k) :
    ∃ posted, q.inbox = p.inbox.drop k ++ posted := by
  obtain ⟨seen, posted, hj', hi⟩ := h.in_order
  -- Both ways tell what was handled since, so this is the first part of the queue.
  obtain rfl := List.append_cancel_left (hj.symm.trans hj')
  refine ⟨posted, ?_⟩
  have hi' : p.inbox.take k ++ (p.inbox.drop k ++ posted) = p.inbox.take k ++ q.inbox := by
    rw [← List.append_assoc, List.take_append_drop]
    exact hi
  exact (List.append_cancel_left hi').symm

namespace Thread

/-- The messages that wait to be handled, oldest first. -/
def inbox (t : Thread) : List Message := t.phone.inbox

def handled (t : Thread) : List Message := handledMessages t.phone.journal

end Thread
end CallAudio

import CallAudio.Proofs.Pauses
import CallAudio.Proofs.Surroundings
import CallAudio.Proofs.View

/-! What goes on outside, and the audio operations beside the note of them in the journal, leave the
machine, the tracker and the journal alone. -/
namespace CallAudio

structure Undisturbed (p q : Phone) : Prop where
  machine : q.machine = p.machine
  tracker : q.tracker = p.tracker
  deadline : q.deadline = p.deadline
  journal : q.journal = p.journal
  closed : q.closed = p.closed
  inbox : p.inbox <+: q.inbox

namespace Undisturbed

variable {p q r : Phone}

theorem refl (p : Phone) : Undisturbed p p := ⟨rfl, rfl, rfl, rfl, rfl, List.prefix_rfl⟩

theorem trans (h : Undisturbed p q) (h' : Undisturbed q r) : Undisturbed p r where
  machine := h'.machine.trans h.machine
  tracker := h'.tracker.trans h.tracker
  deadline := h'.deadline.trans h.deadline
  journal := h'.journal.trans h.journal
  closed := h'.closed.trans h.closed
  inbox := h.inbox.trans h'.inbox

theorem post (p : Phone) (message : Message) : Undisturbed p (p.post message) := by
  unfold Phone.post
  split
  · exact refl p
  · exact ⟨rfl, rfl, rfl, rfl, rfl, List.prefix_append _ _⟩

theorem postAll (p : Phone) (messages : List Message) : Undisturbed p (p.postAll messages) := by
  induction messages generalizing p with
  | nil => exact refl p
  | cons m rest ih => exact (post p m).trans (ih _)

/-- Services and communication device may change, beside what else is not the thread's own. -/
theorem serviced (p : Phone) (platform : Platform) (registry : Registry) :
    Undisturbed p { p with platform, registry } := ⟨rfl, rfl, rfl, rfl, rfl, List.prefix_rfl⟩

end Undisturbed

namespace Phone

theorem makeCommunicationDevice_undisturbed (p : Phone) (address : Address) :
    Undisturbed p (p.makeCommunicationDevice address).2 := by
  obtain ⟨platform, communication, h⟩ := p.makeCommunicationDevice_eq address
  rw [h]
  exact .serviced p _ _

theorem outside_undisturbed (p : Phone) (o : Outside) : Undisturbed p (p.outside o) := by
  have intrusion := p.outside_intrusion o
  generalize p.outside o = q at intrusion ⊢
  cases intrusion with
  | around platform registry dispatcher now messages =>
    have aside : Undisturbed p { p with platform, registry, dispatcher, now } :=
      ⟨rfl, rfl, rfl, rfl, rfl, List.prefix_rfl⟩
    exact aside.trans (.postAll _ messages)
  | fired t =>
    have fired : Undisturbed p { p with timers := p.timers.cancel t.id } :=
      ⟨rfl, rfl, rfl, rfl, rfl, List.prefix_rfl⟩
    exact fired.trans (.post _ _)

theorem undisturbed_passage : Passage Undisturbed :=
  ⟨.refl, fun h h' => h.trans h', outside_undisturbed⟩

end Phone

/-- The job changes nothing of the thread's own. -/
def Job.Undisturbing {α : Type} (job : Job α) (p : Phone) : Prop :=
  job.Along Undisturbed p fun _ _ => True

namespace Phone
open Job

theorem undisturbing_pure {α : Type} (value : α) (p : Phone) :
    (pure value : Job α).Undisturbing p := along_pure undisturbed_passage trivial

theorem finishConnect_undisturbing (p : Phone) (address : Address) (switching : Bool) :
    (finishConnect address switching).Undisturbing p := by
  refine ⟨?_, trivial⟩
  cases switching
  · exact p.makeCommunicationDevice_undisturbed address
  · exact .refl p

theorem connectAudio_undisturbed (p : Phone) (address : Address) (switching : Bool) :
    Step.Along Undisturbed (p.record (.audioRequested address)) (fun _ _ => True)
      (connectAudio address switching p) := by
  have hR := undisturbed_passage
  let q := p.record (.audioRequested address)
  have activated (r : Phone) (use : ActiveUse) : Undisturbed r (r.activate address use).2 :=
    .serviced r _ r.registry
  unfold connectAudio
  apply along_of_update_bind
  apply along_read_bind
  split
  · exact undisturbing_pure ..
  · apply along_awaitHeadset_bind hR
    intro attached os
    split
    · apply along_change_bind hR (activated _ _)
      split
      · apply along_change_bind hR (.serviced _ _ (Phone.registry _))
        split
        · exact finishConnect_undisturbing ..
        · exact undisturbing_pure ..
      · exact undisturbing_pure ..
    · exact undisturbing_pure ..
  · apply along_change_bind hR (activated _ _)
    split
    · exact finishConnect_undisturbing ..
    · exact undisturbing_pure ..

theorem releaseCommunicationDevice_undisturbed (p : Phone) :
    Undisturbed p p.releaseCommunicationDevice := by
  obtain ⟨platform, h | ⟨address, h⟩⟩ := p.releaseCommunicationDevice_eq
  · rw [h]
    exact .serviced p _ _
  · rw [h]
    exact Undisturbed.trans (.serviced p _ _) (.post _ _)

theorem disconnectAudio_undisturbed (p : Phone) :
    Step.Along Undisturbed (p.record .audioReleased) (fun _ _ => True) (disconnectAudio p) := by
  have hR := undisturbed_passage
  let q := p.record .audioReleased
  change Job.Along (do
    let attached ← Job.awaitHeadset
    Job.update fun p => (if attached then p.disconnectSco else p).releaseCommunicationDevice) _ q _
  refine along_awaitHeadset_bind hR fun attached os => along_update ?_ trivial
  cases attached
  · exact releaseCommunicationDevice_undisturbed _
  · have torn (r : Phone) : Undisturbed r r.disconnectSco := .serviced r _ r.registry
    exact (torn _).trans (releaseCommunicationDevice_undisturbed _)

theorem carryingAudio_undisturbing (p : Phone) : carryingAudio.Undisturbing p := by
  apply along_read_bind
  split
  · exact along_read_bind (undisturbing_pure ..)
  · exact along_awaitHeadset_bind undisturbed_passage fun attached os =>
      along_read_bind (undisturbing_pure ..)

end Phone
end CallAudio

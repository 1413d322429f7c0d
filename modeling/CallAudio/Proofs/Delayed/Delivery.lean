import CallAudio.Proofs.Alarms
import CallAudio.Proofs.Delayed.Readings
import CallAudio.Proofs.Delayed.Sends
import Mathlib.Data.List.Induction
import Mathlib.Data.List.Nodup

/-! Which delayed sends are delivered, and in which order. A send is told apart from all others by where it
stands in the schedule, so the program is run on sends in the place of values; it does the same with them. -/
namespace CallAudio

open DelayedStep

variable {μ : Type}

namespace DelayedStep

/-- A send stands for itself in the place of its value. -/
def label (place time : Nat) : DelayedStep μ → DelayedStep (Sending μ)
  | send key value delay => .send key ⟨place, time, key, value, delay⟩ delay
  | drop key => .drop key
  | isFinished key => .isFinished key
  | advance span => .advance span

def labelled (place time : Nat) : List (DelayedStep μ) → List (DelayedStep (Sending μ))
  | [] => []
  | step :: rest => step.label place time :: labelled (place + 1) (time + step.span) rest

theorem map_labelled (place time : Nat) (steps : List (DelayedStep μ)) :
    (labelled place time steps).map (map Sending.value) = steps := by
  induction steps generalizing place time with
  | nil => rfl
  | cons step rest ih =>
    have same : (step.label place time).map Sending.value = step := by
      cases step <;> rfl
    exact congrArg₂ List.cons same (ih _ _)

theorem labelled_concat (place time : Nat) (steps : List (DelayedStep μ)) (step : DelayedStep μ) :
    labelled place time (steps ++ [step]) =
      labelled place time steps ++ [step.label (place + steps.length) (time + passed steps)] := by
  induction steps generalizing place time with
  | nil => rfl
  | cons first rest ih =>
    have place' : place + 1 + rest.length = place + (first :: rest).length := by
      rw [List.length_cons]
      omega
    have time' : time + first.span + passed rest = time + passed (first :: rest) := Nat.add_assoc _ _ _
    show _ :: labelled _ _ (rest ++ [step]) = _ :: (labelled _ _ rest ++ _)
    rw [ih, place', time']

/-- The sends that are delivered, in the order in which they are. -/
def delivered (steps : List (DelayedStep μ)) : List (Sending μ) :=
  (perform {} (labelled 0 0 steps)).flatMap DelayedReading.received

theorem delivered_eq (steps : List (DelayedStep μ)) :
    delivered steps = (after {} (labelled 0 0 steps)).received :=
  received_perform {} (labelled 0 0 steps)

/-- A step before what is due is delivered. -/
def started (s : DelayedSends μ) : DelayedStep μ → DelayedSends μ
  | advance span => { s with now := s.now + span }
  | step => (step.run s).2

theorem settle_eq (s : DelayedSends μ) (step : DelayedStep μ) : settle s step = (started s step).deliver := by
  cases step with
  | advance span => exact DelayedSends.deliver_deliver _
  | _ => rfl

end DelayedStep

namespace DelayedSends

/-- Dropping a handle cancels its timer. -/
theorem drop_form (s : DelayedSends μ) (key : Nat) : ∃ handles,
    (s.drop key).2 = { s with timers := s.timers.release (s.handle? key), handles } ∧
      ∀ other, handles.get? other = if other = key then none else s.handles.get? other := by
  unfold drop
  cases held : s.handle? key with
  | none =>
    refine ⟨s.handles, rfl, fun other => ?_⟩
    split
    · rename_i same
      exact same ▸ held
    · rfl
  | some id => exact ⟨s.handles.erase key, rfl, s.handles.get?_erase key⟩

theorem send_form (s : DelayedSends μ) (key : Nat) (value : μ) (delay : Nat) : ∃ handles,
    (s.send key value delay).2 = { s with
      timers := (s.timers.arm (s.now + delay) value).release (s.handle? key)
      handles } ∧
      ∀ other, handles.get? other = if other = key then some s.timers.nextId else s.handles.get? other := by
  obtain ⟨handles, dropped, others⟩ := (s.armed value delay).drop_form key
  refine ⟨handles.set key s.timers.nextId, ?_, fun other => ?_⟩
  · rw [send_eq]
    dsimp only
    rw [dropped]
    rfl
  · rw [Table.get?_set, others]
    split
    · rfl
    · rfl

/-- Each armed timer is that of the handle under its key, and handles are told apart by their timers. -/
structure Keyed (s : DelayedSends (Sending μ)) : Prop where
  fresh : ∀ t ∈ s.timers.armed, t.id < s.timers.nextId
  handled : ∀ t ∈ s.timers.armed, s.handles.get? t.value.key = some t.id
  own : ∀ key id, s.handles.get? key = some id →
    id < s.timers.nextId ∧ ∀ t ∈ s.timers.armed, t.id = id → t.value.key = key

variable {s : DelayedSends (Sending μ)} {key : Nat}

/-- Only the timers of a key are released with its handle. -/
theorem Keyed.released_iff (h : s.Keyed) {t : Timer (Sending μ)} (mem : t ∈ s.timers.armed) :
    s.handle? key ≠ some t.id ↔ t.value.key ≠ key := by
  refine not_congr ⟨fun held => (h.own key t.id held).2 t mem rfl, ?_⟩
  rintro rfl
  exact h.handled t mem

theorem Keyed.drop (h : s.Keyed) (key : Nat) : (s.drop key).2.Keyed ∧
    ∀ t, t ∈ (s.drop key).2.timers.armed ↔ t ∈ s.timers.armed ∧ t.value.key ≠ key := by
  obtain ⟨handles, dropped, others⟩ := s.drop_form key
  rw [dropped]
  have kept (t : Timer (Sending μ)) : t ∈ (s.timers.release (s.handle? key)).armed ↔
      t ∈ s.timers.armed ∧ t.value.key ≠ key := by
    rw [Timers.mem_release]
    exact and_congr_right fun mem => h.released_iff mem
  refine ⟨⟨fun t mem => ?_, fun t mem => ?_, fun other id held => ?_⟩, kept⟩
  · show t.id < (s.timers.release _).nextId
    rw [Timers.release_nextId]
    exact h.fresh t ((kept t).mp mem).1
  · obtain ⟨armed, spared⟩ := (kept t).mp mem
    show handles.get? t.value.key = _
    rw [others, if_neg spared]
    exact h.handled t armed
  · have held' : s.handles.get? other = some id := by
      have held : handles.get? other = some id := held
      rw [others] at held
      split at held
      · cases held
      · exact held
    obtain ⟨bound, own⟩ := h.own other id held'
    refine ⟨?_, fun t mem => own t ((kept t).mp mem).1⟩
    show id < (s.timers.release _).nextId
    rwa [Timers.release_nextId]

theorem Keyed.send (h : s.Keyed) (value : Sending μ) (delay : Nat) :
    (s.send value.key value delay).2.Keyed ∧
      ∀ t, t ∈ (s.send value.key value delay).2.timers.armed ↔
        t = ⟨s.timers.nextId, s.now + delay, value⟩ ∨ t ∈ s.timers.armed ∧ t.value.key ≠ value.key := by
  obtain ⟨handles, sent, others⟩ := s.send_form value.key value delay
  rw [sent]
  let timers := (s.timers.arm (s.now + delay) value).release (s.handle? value.key)
  have next : timers.nextId = s.timers.nextId + 1 := Timers.release_nextId _ _
  have kept (t : Timer (Sending μ)) : t ∈ timers.armed ↔
      t = ⟨s.timers.nextId, s.now + delay, value⟩ ∨ t ∈ s.timers.armed ∧ t.value.key ≠ value.key := by
    rw [Timers.mem_release]
    show t ∈ Timers.insert _ s.timers.armed ∧ _ ↔ _
    rw [Timers.mem_insert, or_and_right]
    refine or_congr (and_iff_left_of_imp ?_) (and_congr_right fun mem => h.released_iff mem)
    -- The older timer has an older number.
    rintro rfl held
    exact absurd (h.own value.key _ held).1 (Nat.lt_irrefl _)
  refine ⟨⟨fun t mem => ?_, fun t mem => ?_, fun other id held => ?_⟩, kept⟩
  · show t.id < timers.nextId
    rw [next]
    rcases (kept t).mp mem with rfl | ⟨armed, -⟩
    · exact Nat.lt_succ_self _
    · exact Nat.lt_succ_of_lt (h.fresh t armed)
  · show handles.get? t.value.key = some t.id
    rw [others]
    rcases (kept t).mp mem with rfl | ⟨armed, spared⟩
    · exact if_pos rfl
    · rw [if_neg spared]
      exact h.handled t armed
  · have held : handles.get? other = some id := held
    rw [others] at held
    show id < timers.nextId ∧ _
    split at held
    · rename_i same
      obtain rfl := Option.some.inj held
      refine ⟨by omega, fun t mem number => ?_⟩
      rcases (kept t).mp mem with rfl | ⟨armed, -⟩
      · exact same.symm
      · exact absurd (h.fresh t armed) (by omega)
    · obtain ⟨bound, own⟩ := h.own other id held
      refine ⟨by omega, fun t mem number => ?_⟩
      rcases (kept t).mp mem with rfl | ⟨armed, -⟩
      · exact absurd number (by simp only; omega)
      · exact own t armed number

/-- The state after some steps. A send is armed as long as its handle is kept and it is not delivered; it is
delivered only in time, and it is delivered if it is in time and its handle is dropped later. All sends that are
delivered or armed are in order. -/
structure Tracks (s : DelayedSends (Sending μ)) (steps : List (DelayedStep μ)) : Prop where
  now : s.now = passed steps
  keyed : s.Keyed
  due : ∀ t ∈ s.timers.armed, t.due = t.value.due
  armed : ∀ sending, sending ∈ s.timers.armed.map Timer.value ↔
    sending.MadeIn steps ∧ sending.Held steps ∧ sending ∉ s.received
  received : ∀ sending ∈ s.received, sending.MadeIn steps ∧ sending.InTime steps
  reached : ∀ sending, Sending.MadeIn sending steps → sending.InTime steps →
    sending ∈ s.received ∨ sending.Held steps
  ordered : (s.received ++ s.timers.armed.map Timer.value).Pairwise Sending.Before

/-- Everything that was in time is delivered. -/
def Settled (s : DelayedSends (Sending μ)) (steps : List (DelayedStep μ)) : Prop :=
  ∀ sending, Sending.MadeIn sending steps → sending.InTime steps → sending ∈ s.received

theorem mem_due (h : ∀ t ∈ s.timers.armed, t.due = t.value.due) {sending : Sending μ} (now : Nat) :
    sending ∈ s.timers.due now ↔ sending ∈ s.timers.armed.map Timer.value ∧ sending.due ≤ now := by
  unfold Timers.due
  simp only [List.mem_map, List.mem_filter, decide_eq_true_eq]
  constructor
  · rintro ⟨t, ⟨mem, past⟩, rfl⟩
    exact ⟨⟨t, mem, rfl⟩, h t mem ▸ past⟩
  · rintro ⟨⟨t, mem, rfl⟩, past⟩
    exact ⟨t, ⟨mem, (h t mem).symm ▸ past⟩, rfl⟩

variable {steps : List (DelayedStep μ)}

/-- What is due goes from the armed sends to the delivered ones. -/
theorem Tracks.deliver (h : s.Tracks steps) : s.deliver.Tracks steps ∧ s.deliver.Settled steps := by
  have now := h.now
  have received (sending : Sending μ) : sending ∈ s.deliver.received ↔ sending ∈ s.received ∨
      sending ∈ s.timers.armed.map Timer.value ∧ sending.due ≤ s.now := by
    rw [← mem_due h.due]
    exact List.mem_append
  have armed (sending : Sending μ) : sending ∈ s.deliver.timers.armed.map Timer.value ↔
      sending ∈ s.timers.armed.map Timer.value ∧ ¬sending.due ≤ s.now := by
    show sending ∈ (s.timers.armed.filter fun t => ¬t.due ≤ s.now).map Timer.value ↔ _
    simp only [List.mem_map, List.mem_filter, decide_eq_true_eq]
    constructor
    · rintro ⟨t, ⟨mem, future⟩, rfl⟩
      exact ⟨⟨t, mem, rfl⟩, h.due t mem ▸ future⟩
    · rintro ⟨⟨t, mem, rfl⟩, future⟩
      exact ⟨t, ⟨mem, (h.due t mem).symm ▸ future⟩, rfl⟩
  have kept (t : Timer (Sending μ)) (mem : t ∈ s.deliver.timers.armed) : t ∈ s.timers.armed :=
    List.mem_of_mem_filter mem
  -- A send in time that was not received yet is still armed, and its deadline has passed.
  have settled : s.deliver.Settled steps := by
    intro sending made inTime
    rw [received]
    by_cases early : sending ∈ s.received
    · exact Or.inl early
    · have held := (h.reached sending made inTime).resolve_left early
      exact Or.inr ⟨(h.armed sending).mpr ⟨made, held, early⟩, now ▸ inTime.due_le made⟩
  refine ⟨⟨now, ⟨?_, ?_, ?_⟩, ?_, ?_, ?_, ?_, ?_⟩, settled⟩
  · exact fun t mem => h.keyed.fresh t (kept t mem)
  · exact fun t mem => h.keyed.handled t (kept t mem)
  · exact fun key id held =>
      ⟨(h.keyed.own key id held).1, fun t mem => (h.keyed.own key id held).2 t (kept t mem)⟩
  · exact fun t mem => h.due t (kept t mem)
  · intro sending
    rw [armed, received, h.armed]
    tauto
  · intro sending mem
    rcases (received sending).mp mem with early | ⟨mem, past⟩
    · exact h.received sending early
    · obtain ⟨made, held, -⟩ := (h.armed sending).mp mem
      exact ⟨made, Sending.inTime_of_held made held (now ▸ past)⟩
  · exact fun sending made inTime => Or.inl (settled sending made inTime)
  · obtain ⟨early, queued, across⟩ := List.pairwise_append.mp h.ordered
    have dues : (s.timers.due s.now).Sublist (s.timers.armed.map Timer.value) :=
      List.filter_sublist.map Timer.value
    have left : (s.deliver.timers.armed.map Timer.value).Sublist (s.timers.armed.map Timer.value) :=
      List.filter_sublist.map Timer.value
    refine List.pairwise_append.mpr ⟨?_, queued.sublist left, ?_⟩
    · exact List.pairwise_append.mpr
        ⟨early, queued.sublist dues, fun a mem b mem' => across a mem b (dues.subset mem')⟩
    · intro a mem b mem'
      rcases List.mem_append.mp mem with mem | mem
      · exact across a mem b (left.subset mem')
      · -- What was due by now comes before what is due later, whichever was made first.
        have past := ((mem_due h.due s.now).mp mem).2
        have future := ((armed b).mp mem').2
        exact Or.inl (by omega)

/-- What a step does before anything is delivered: it may drop the handle of a send, and it may make one. -/
theorem Tracks.concat (h : s.Tracks steps) (settled : s.Settled steps) {step : DelayedStep μ}
    {s' : DelayedSends (Sending μ)} (now : s'.now = s.now + step.span) (received : s'.received = s.received)
    (keyed : s'.Keyed) (due : ∀ t ∈ s'.timers.armed, t.due = t.value.due)
    (armed : ∀ sending, sending ∈ s'.timers.armed.map Timer.value ↔
      (sending.place = steps.length ∧ sending.time = passed steps ∧
        step = .send sending.key sending.value sending.delay) ∨
      sending ∈ s.timers.armed.map Timer.value ∧ step.frees sending.key = false)
    (ordered : (s'.received ++ s'.timers.armed.map Timer.value).Pairwise Sending.Before) :
    s'.Tracks (steps ++ [step]) where
  now := by
    rw [now, h.now, passed_append]
    rfl
  keyed := keyed
  due := due
  armed sending := by
    rw [armed, h.armed, Sending.madeIn_concat, received]
    constructor
    · rintro (new | ⟨⟨made, held, undelivered⟩, spared⟩)
      · -- What is delivered was made by an earlier step.
        refine ⟨Or.inr new, Sending.held_of_last new.1, fun mem => ?_⟩
        have before := (h.received sending mem).1.place_lt
        omega
      · have keeps : ∀ other ∈ [step], other.frees sending.key = false :=
          fun other mem => List.mem_singleton.mp mem ▸ spared
        exact ⟨Or.inl made, (Sending.held_append made.place_lt).mpr ⟨held, keeps⟩, undelivered⟩
    · rintro ⟨made | new, held, undelivered⟩
      · obtain ⟨held, keeps⟩ := (Sending.held_append made.place_lt).mp held
        exact Or.inr ⟨⟨made, held, undelivered⟩, keeps step (List.mem_singleton.mpr rfl)⟩
      · exact Or.inl new
  received sending mem := by
    rw [received] at mem
    obtain ⟨made, inTime⟩ := h.received sending mem
    exact ⟨made.append _, inTime.append made.place_lt _⟩
  reached sending made inTime := by
    rw [received]
    rcases Sending.madeIn_concat.mp made with before | ⟨last, -⟩
    · exact (inTime.of_concat before.place_lt).imp (settled sending before) id
    · exact Or.inr (Sending.held_of_last last)
  ordered := ordered

/-- A send that is put behind all that are due no later keeps the order. -/
theorem insert_ordered {armed : List (Timer (Sending μ))} {earlier : List (Sending μ)} {new : Sending μ}
    (id : Nat) (ordered : (earlier ++ armed.map Timer.value).Pairwise Sending.Before)
    (due : ∀ t ∈ armed, t.due = t.value.due) (last : ∀ sending ∈ earlier, sending.Before new)
    (places : ∀ t ∈ armed, t.value.place < new.place) :
    (earlier ++ (Timers.insert ⟨id, new.due, new⟩ armed).map Timer.value).Pairwise Sending.Before := by
  induction armed generalizing earlier with
  | nil =>
    refine List.pairwise_append.mpr ⟨(List.pairwise_append.mp ordered).1, List.pairwise_singleton _ _, ?_⟩
    exact fun sending mem other mem' => List.mem_singleton.mp mem' ▸ last sending mem
  | cons x rest ih =>
    have dues := List.forall_mem_cons.mp due
    have regrouped : earlier ++ (x :: rest).map Timer.value =
        (earlier ++ [x.value]) ++ rest.map Timer.value := by simp
    unfold Timers.insert
    split
    · rename_i sooner
      have first : x.value.Before new := by
        have place : x.value.place < new.place := places x List.mem_cons_self
        have sooner : x.due ≤ new.due := sooner
        rw [dues.1] at sooner
        unfold Sending.Before
        omega
      have last' : ∀ sending ∈ earlier ++ [x.value], sending.Before new := by
        intro sending mem
        rcases List.mem_append.mp mem with mem | mem
        · exact last sending mem
        · exact List.mem_singleton.mp mem ▸ first
      have goes := ih (regrouped ▸ ordered) dues.2 last' fun t mem => places t (List.mem_cons_of_mem x mem)
      simpa using goes
    · rename_i later
      -- Whatever stands behind the first that is due later is due later itself.
      have first : new.Before x.value := by
        have later : ¬x.due ≤ new.due := later
        rw [dues.1] at later
        exact Or.inl (by omega)
      obtain ⟨front, queued, across⟩ := List.pairwise_append.mp ordered
      have beyond : ∀ sending ∈ (x :: rest).map Timer.value, new.Before sending := by
        intro sending mem
        rcases List.mem_cons.mp mem with rfl | mem
        · exact first
        · exact first.trans (List.rel_of_pairwise_cons queued mem)
      refine List.pairwise_append.mpr ⟨front, List.pairwise_cons.mpr ⟨beyond, queued⟩, ?_⟩
      intro sending mem other mem'
      rcases List.mem_cons.mp mem' with rfl | mem'
      · exact last sending mem
      · exact across sending mem other mem'

/-- All sends so far were made before the next one, and what is delivered was due by now. -/
theorem Tracks.before_next (h : s.Tracks steps) {next : Sending μ} (place : next.place = steps.length)
    (time : next.time = passed steps) : (∀ sending ∈ s.received, sending.Before next) ∧
      ∀ t ∈ s.timers.armed, t.value.place < next.place := by
  constructor
  · intro sending mem
    obtain ⟨made, inTime⟩ := h.received sending mem
    have before : sending.place < steps.length := made.place_lt
    have past : sending.due ≤ passed steps := inTime.due_le made
    have present : next.due = passed steps + next.delay := congrArg (· + next.delay) time
    unfold Sending.Before
    omega
  · intro t mem
    rw [place]
    exact ((h.armed t.value).mp (List.mem_map_of_mem mem)).1.place_lt

/-- A send replaces the one under its key, and stands behind all that are due no later. -/
theorem Tracks.send (h : s.Tracks steps) (settled : s.Settled steps) (key : Nat) (value : μ) (delay : Nat) :
    (s.send key (⟨steps.length, passed steps, key, value, delay⟩ : Sending μ) delay).2.Tracks
      (steps ++ [.send key value delay]) := by
  let new : Sending μ := ⟨steps.length, passed steps, key, value, delay⟩
  let timer : Timer (Sending μ) := ⟨s.timers.nextId, s.now + delay, new⟩
  let sent := (s.send key new delay).2
  obtain ⟨keyed, kept⟩ : sent.Keyed ∧ ∀ t, t ∈ sent.timers.armed ↔
      t = timer ∨ t ∈ s.timers.armed ∧ t.value.key ≠ key := h.keyed.send new delay
  have due : s.now + delay = new.due := congrArg (· + delay) h.now
  obtain ⟨now, received, queue⟩ : sent.now = s.now ∧ sent.received = s.received ∧
      sent.timers.armed.Sublist (Timers.insert timer s.timers.armed) := by
    obtain ⟨handles, form, -⟩ := s.send_form key new delay
    unfold sent
    rw [form]
    exact ⟨rfl, rfl, Timers.release_sublist _ _⟩
  refine h.concat settled now received keyed (fun t mem => ?_) (fun sending => ?_) ?_
  · rcases (kept t).mp mem with rfl | ⟨armed, -⟩
    · exact due
    · exact h.due t armed
  · constructor
    · intro mem
      obtain ⟨t, found, rfl⟩ := List.mem_map.mp mem
      rcases (kept t).mp found with rfl | ⟨armed, spared⟩
      · exact Or.inl ⟨rfl, rfl, rfl⟩
      · exact Or.inr ⟨List.mem_map_of_mem armed, decide_eq_false (Ne.symm spared)⟩
    · rintro (⟨place, time, made⟩ | ⟨mem, spared⟩)
      · obtain ⟨place', time', key', value', delay'⟩ := sending
        cases made
        cases place
        cases time
        exact List.mem_map.mpr ⟨timer, (kept timer).mpr (Or.inl rfl), rfl⟩
      · obtain ⟨t, armed, rfl⟩ := List.mem_map.mp mem
        have other : t.value.key ≠ key := Ne.symm (of_decide_eq_false spared)
        exact List.mem_map_of_mem ((kept t).mpr (Or.inr ⟨armed, other⟩))
  · obtain ⟨earlier, places⟩ : (∀ sending ∈ s.received, sending.Before new) ∧
        ∀ t ∈ s.timers.armed, t.value.place < new.place := h.before_next rfl rfl
    have inserted := insert_ordered s.timers.nextId h.ordered h.due earlier places
    show (sent.received ++ sent.timers.armed.map Timer.value).Pairwise _
    rw [received]
    refine inserted.sublist ((List.Sublist.refl _).append (List.Sublist.map _ ?_))
    rw [← due]
    exact queue

theorem Tracks.drop (h : s.Tracks steps) (settled : s.Settled steps) (key : Nat) :
    (s.drop key).2.Tracks (steps ++ [.drop key]) := by
  let dropped := (s.drop key).2
  obtain ⟨keyed, kept⟩ : dropped.Keyed ∧ ∀ t, t ∈ dropped.timers.armed ↔
      t ∈ s.timers.armed ∧ t.value.key ≠ key := h.keyed.drop key
  obtain ⟨now, received, queue⟩ : dropped.now = s.now ∧ dropped.received = s.received ∧
      dropped.timers.armed.Sublist s.timers.armed := by
    obtain ⟨handles, form, -⟩ := s.drop_form key
    unfold dropped
    rw [form]
    exact ⟨rfl, rfl, Timers.release_sublist _ _⟩
  refine h.concat settled now received keyed (fun t mem => h.due t (queue.subset mem))
    (fun sending => ?_) ?_
  · constructor
    · intro mem
      obtain ⟨t, found, rfl⟩ := List.mem_map.mp mem
      obtain ⟨armed, spared⟩ := (kept t).mp found
      exact Or.inr ⟨List.mem_map_of_mem armed, decide_eq_false (Ne.symm spared)⟩
    · rintro (⟨-, -, made⟩ | ⟨mem, spared⟩)
      · cases made
      · obtain ⟨t, armed, rfl⟩ := List.mem_map.mp mem
        have other : t.value.key ≠ key := Ne.symm (of_decide_eq_false spared)
        exact List.mem_map_of_mem ((kept t).mpr ⟨armed, other⟩)
  · show (dropped.received ++ dropped.timers.armed.map Timer.value).Pairwise _
    rw [received]
    exact h.ordered.sublist ((List.Sublist.refl _).append (queue.map _))

theorem Tracks.started (h : s.Tracks steps) (settled : s.Settled steps) (step : DelayedStep μ) :
    ((step.label steps.length (passed steps)).started s).Tracks (steps ++ [step]) := by
  cases step with
  | send key value delay => exact h.send settled key value delay
  | drop key => exact h.drop settled key
  | isFinished key =>
    refine h.concat settled rfl rfl h.keyed h.due (fun sending => ?_) h.ordered
    exact ⟨fun mem => Or.inr ⟨mem, rfl⟩, fun or => or.elim (fun new => nomatch new.2.2) And.left⟩
  | advance span =>
    refine h.concat settled rfl rfl ⟨h.keyed.fresh, h.keyed.handled, h.keyed.own⟩ h.due (fun sending => ?_)
      h.ordered
    exact ⟨fun mem => Or.inr ⟨mem, rfl⟩, fun or => or.elim (fun new => nomatch new.2.2) And.left⟩

theorem tracks_after (steps : List (DelayedStep μ)) :
    (after {} (labelled 0 0 steps)).Tracks steps ∧ (after {} (labelled 0 0 steps)).Settled steps := by
  induction steps using List.reverseRecOn with
  | nil =>
    have never (sending : Sending μ) : ¬sending.MadeIn ([] : List (DelayedStep μ)) := fun made =>
      absurd made.place_lt (Nat.not_lt_zero _)
    refine ⟨⟨rfl, ⟨nofun, nofun, nofun⟩, nofun, fun sending => ?_, nofun, fun sending made => ?_,
      List.Pairwise.nil⟩, fun sending made => ?_⟩
    · exact ⟨nofun, fun h => absurd h.1 (never sending)⟩
    · exact absurd made (never sending)
    · exact absurd made (never sending)
  | append_singleton steps step ih =>
    obtain ⟨tracks, settled⟩ := ih
    rw [labelled_concat, Nat.zero_add, Nat.zero_add]
    unfold after
    rw [List.foldl_append]
    let s := after {} (labelled 0 0 steps)
    show (settle s _).Tracks _ ∧ (settle s _).Settled _
    rw [settle_eq]
    exact (tracks.started settled step).deliver

end DelayedSends

/-- What a schedule delivers: the sends whose deadline is reached before their handle is dropped, each once,
in the order of their deadlines. -/
structure Delivers (steps : List (DelayedStep μ)) (delivered : List (Sending μ)) : Prop where
  inTime : ∀ s, s ∈ delivered ↔ s.MadeIn steps ∧ s.InTime steps
  ordered : delivered.Pairwise Sending.Before
  once : delivered.Nodup

theorem delivers_delivered (steps : List (DelayedStep μ)) : Delivers steps (delivered steps) := by
  obtain ⟨tracks, settled⟩ := DelayedSends.tracks_after steps
  rw [delivered_eq]
  have ordered := (List.pairwise_append.mp tracks.ordered).1
  refine ⟨fun s => ⟨tracks.received s, fun h => settled s h.1 h.2⟩, ordered, ?_⟩
  -- No send comes before itself, so none is delivered twice.
  apply ordered.imp
  rintro s _ before rfl
  unfold Sending.Before at before
  omega

theorem delivered_grows (steps rest : List (DelayedStep μ)) :
    delivered steps <+: delivered (steps ++ rest) := by
  induction rest using List.reverseRecOn with
  | nil => exact (List.append_nil steps).symm ▸ List.prefix_rfl
  | append_singleton rest step ih =>
    refine ih.trans ?_
    rw [← List.append_assoc]
    unfold delivered
    rw [labelled_concat, perform_append, List.flatMap_append]
    exact List.prefix_append _ _

/-- Every send that is delivered is delivered in time, each once and in the order of the deadlines, and every
other is not delivered at all. The schedule can be carried out on the sends themselves in the place of their
values, with the same replies at the same times. What is delivered stays delivered however the schedule goes on;
a send whose handle was dropped before is not delivered any more. Whether a handle is dropped or is only asked
after makes no difference to any other send. All this is of a prompt runtime, which has its turn after every step
of the schedule: a send without delay counts as in time, even if the very next step drops its handle. -/
theorem delayed_sends_deliver_in_time (steps : List (DelayedStep μ)) :
    perform {} steps = (perform {} (labelled 0 0 steps)).map (DelayedReading.map Sending.value) ∧
      Delivers steps (delivered steps) ∧
      ∀ rest, delivered steps <+: delivered (steps ++ rest) ∧
        (∀ s, s.MadeIn steps → ¬s.Held steps → s ∉ delivered steps → s ∉ delivered (steps ++ rest)) ∧
        ∀ key s, ¬(s.MadeIn steps ∧ s.Held steps ∧ s.key = key) →
          (s ∈ delivered (steps ++ .drop key :: rest) ↔ s ∈ delivered (steps ++ .isFinished key :: rest)) := by
  refine ⟨?_, delivers_delivered steps, fun rest => ⟨delivered_grows steps rest, ?_, ?_⟩⟩
  · rw [← perform_map, map_labelled]
    rfl
  · intro s made dropped undelivered mem
    have inTime := (((delivers_delivered _).inTime s).mp mem).2.of_append made.place_lt dropped
    exact undelivered (((delivers_delivered steps).inTime s).mpr ⟨made, inTime⟩)
  · intro key s other
    have unsent (key' : Nat) (value : μ) (delay : Nat) : DelayedStep.drop key ≠ .send key' value delay := nofun
    have unsent' (key' : Nat) (value : μ) (delay : Nat) :
        DelayedStep.isFinished key ≠ .send key' value delay := nofun
    have spans : (.drop key : DelayedStep μ).span = (.isFinished key : DelayedStep μ).span := rfl
    -- Only the handle of the send that is excepted is dropped here.
    have spared (made : s.place < steps.length → s.MadeIn steps) (before : s.place < steps.length)
        (held : s.Held steps) : (DelayedStep.drop key : DelayedStep μ).frees s.key = false :=
      decide_eq_false fun same => other ⟨made before, held, same.symm⟩
    rw [(delivers_delivered _).inTime, (delivers_delivered _).inTime]
    constructor
    · rintro ⟨made, inTime⟩
      have elsewhere := made.elsewhere unsent
      exact ⟨made.replaced spans elsewhere,
        inTime.replaced spans elsewhere fun before held => ⟨spared made.of_append before held, rfl⟩⟩
    · rintro ⟨made, inTime⟩
      have elsewhere := made.elsewhere unsent'
      exact ⟨made.replaced spans.symm elsewhere,
        inTime.replaced spans.symm elsewhere fun before held => ⟨rfl, spared made.of_append before held⟩⟩

/-- A send gives way to another under its key, and a handle is dropped after its send was delivered. -/
theorem delayed_sends_deliver_in_time_of_replaced :
    let steps : List (DelayedStep Nat) := [.send 1 7 5, .send 2 7 0, .advance 3, .send 1 9 4]
    let replaced : Sending Nat := ⟨0, 0, 1, 7, 5⟩
    let immediate : Sending Nat := ⟨1, 0, 2, 7, 0⟩
    let last : Sending Nat := ⟨3, 3, 1, 9, 4⟩
    (replaced.MadeIn steps ∧ ¬replaced.Held steps ∧ replaced ∉ delivered steps) ∧
      replaced ∉ delivered (steps ++ [.drop 2, .advance 4]) ∧
      ¬(last.MadeIn steps ∧ last.Held steps ∧ last.key = 2) ∧
      last ∈ delivered (steps ++ [.drop 2, .advance 4]) ∧
      delivered (steps ++ [.isFinished 2, .advance 4]) = [immediate, last] ∧
      (perform {} (steps ++ [.drop 2, .advance 4])).map DelayedReading.received =
        [[], [7], [], [], [], [9]] := by
  intro steps replaced immediate last
  have made : replaced.MadeIn steps := ⟨rfl, rfl⟩
  have newer : .send 1 9 4 ∈ replaced.later steps := by simp [Sending.later, steps, replaced]
  have freed : ¬replaced.Held steps := fun held => absurd (held _ newer) (by decide)
  have undelivered : replaced ∉ delivered steps := by decide
  have spared : ¬(last.MadeIn steps ∧ last.Held steps ∧ last.key = 2) := fun h => absurd h.2.2 (by decide)
  obtain ⟨-, -, goes⟩ := delayed_sends_deliver_in_time steps
  have others := (goes [.advance 4]).2.2 2 last spared
  refine ⟨⟨made, freed, undelivered⟩, (goes _).2.1 replaced made freed undelivered, spared, ?_,
    by decide, by decide⟩
  exact others.mpr (by decide)

end CallAudio

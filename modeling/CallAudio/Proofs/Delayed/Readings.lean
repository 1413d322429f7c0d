import CallAudio.Bench.Delayed
import CallAudio.Proofs.Renaming.Basic

/-! Runs of delayed sends: what their readings have to do with the state that they lead to, and that the program
never looks at the values it sends. -/
namespace CallAudio

variable {μ ν : Type}

namespace DelayedSends

def map (f : μ → ν) (s : DelayedSends μ) : DelayedSends ν :=
  ⟨s.now, s.timers.map f, s.handles, s.received.map f⟩

variable (f : μ → ν) (s : DelayedSends μ)

theorem map_drop (key : Nat) : (s.map f).drop key = ((s.drop key).1, (s.drop key).2.map f) := by
  unfold drop
  have same : (s.map f).handle? key = s.handle? key := rfl
  rw [same]
  cases s.handle? key with
  | none => rfl
  | some id =>
    have cancelled : (s.timers.cancel id).map f = (s.timers.map f).cancel id := s.timers.map_cancel f id
    simp only [map, cancelled]

/-- The timer of a send is armed before an older send under the same key is dropped. -/
def armed (value : μ) (delay : Nat) (s : DelayedSends μ) : DelayedSends μ :=
  { s with timers := s.timers.arm (s.now + delay) value }

theorem send_eq (key : Nat) (value : μ) (delay : Nat) :
    let dropped := (s.armed value delay).drop key
    s.send key value delay =
      (dropped.1, { dropped.2 with handles := dropped.2.handles.set key s.timers.nextId }) := rfl

theorem map_armed (value : μ) (delay : Nat) :
    (s.armed value delay).map f = (s.map f).armed (f value) delay := by
  have arm : (s.timers.arm (s.now + delay) value).map f = (s.timers.map f).arm (s.now + delay) (f value) :=
    s.timers.map_arm f _ value
  unfold armed map
  rw [arm]

theorem map_send (key : Nat) (value : μ) (delay : Nat) :
    (s.map f).send key (f value) delay = ((s.send key value delay).1, (s.send key value delay).2.map f) := by
  rw [send_eq, send_eq, ← map_armed, map_drop]
  rfl

theorem map_deliver : (s.map f).deliver = s.deliver.map f := by
  have due (now : Nat) : (s.timers.map f).due now = (s.timers.due now).map f := by
    unfold Timers.due Timers.map
    rw [List.filter_map, List.map_map, List.map_map]
    rfl
  have expire (now : Nat) : (s.timers.map f).expire now = (s.timers.expire now).map f := by
    unfold Timers.expire Timers.map
    rw [List.filter_map]
    rfl
  unfold deliver map
  rw [due, expire, List.map_append]

/-- What is due is delivered at once. -/
theorem deliver_deliver : s.deliver.deliver = s.deliver := by
  -- What expires at a time is just what is due then.
  have none : (s.timers.expire s.now).due s.now = [] := by
    unfold Timers.due Timers.expire
    rw [List.filter_filter, List.filter_eq_nil_iff.mpr]
    · rfl
    · intro t _
      simp
  have once : (s.timers.expire s.now).expire s.now = s.timers.expire s.now := by
    unfold Timers.expire
    rw [List.filter_filter]
    simp
  show (⟨s.now, (s.timers.expire s.now).expire s.now, s.handles,
    (s.received ++ s.timers.due s.now) ++ (s.timers.expire s.now).due s.now⟩ : DelayedSends μ) = s.deliver
  rw [none, once, List.append_nil]
  rfl

end DelayedSends

def DelayedReading.map (f : μ → ν) (r : DelayedReading μ) : DelayedReading ν :=
  ⟨r.reply, r.time, r.received.map f⟩

namespace DelayedStep

def map (f : μ → ν) : DelayedStep μ → DelayedStep ν
  | send key value delay => .send key (f value) delay
  | drop key => .drop key
  | isFinished key => .isFinished key
  | advance span => .advance span

/-- A step with the delivery that follows it. -/
def settle (s : DelayedSends μ) (step : DelayedStep μ) : DelayedSends μ := (step.run s).2.deliver

def after (s : DelayedSends μ) (steps : List (DelayedStep μ)) : DelayedSends μ := steps.foldl settle s

theorem run_map (f : μ → ν) (s : DelayedSends μ) (step : DelayedStep μ) :
    (step.map f).run (s.map f) = ((step.run s).1, (step.run s).2.map f) := by
  cases step with
  | send key value delay =>
    show ((s.map f).send key (f value) delay).map some id = _
    rw [DelayedSends.map_send]
    rfl
  | drop key =>
    show ((s.map f).drop key).map some id = _
    rw [DelayedSends.map_drop]
    rfl
  | isFinished key =>
    have armed (id : Nat) : (s.timers.map f).isArmed id = s.timers.isArmed id := by
      unfold Timers.isArmed Timers.map
      rw [List.any_map]
      rfl
    show ((s.handles.get? key).map fun id => !(s.timers.map f).isArmed id, s.map f) = _
    simp only [armed]
    rfl
  | advance span =>
    let later : DelayedSends μ := { s with now := s.now + span }
    show (none, (later.map f).deliver) = (none, later.deliver.map f)
    rw [DelayedSends.map_deliver]

theorem settle_map (f : μ → ν) (s : DelayedSends μ) (step : DelayedStep μ) :
    settle (s.map f) (step.map f) = (settle s step).map f := by
  unfold settle
  rw [run_map, DelayedSends.map_deliver]

/-- The program never looks at the values. -/
theorem perform_map (f : μ → ν) (s : DelayedSends μ) (steps : List (DelayedStep μ)) :
    perform (s.map f) (steps.map (map f)) = (perform s steps).map (DelayedReading.map f) := by
  induction steps generalizing s with
  | nil => rfl
  | cons step rest ih =>
    have reading : ((settle s step).received.map f).drop (s.received.map f).length =
        ((settle s step).received.drop s.received.length).map f := by
      rw [List.length_map, List.map_drop]
    show (⟨((step.map f).run (s.map f)).1, (settle (s.map f) (step.map f)).now,
        (settle (s.map f) (step.map f)).received.drop (s.map f).received.length⟩ : DelayedReading ν) ::
      perform (settle (s.map f) (step.map f)) (rest.map (map f)) = _
    rw [run_map, settle_map, ih]
    exact congrArg (· :: _) (congrArg (DelayedReading.mk _ _) reading)

theorem perform_append (s : DelayedSends μ) (steps rest : List (DelayedStep μ)) :
    perform s (steps ++ rest) = perform s steps ++ perform (after s steps) rest := by
  induction steps generalizing s with
  | nil => rfl
  | cons step others ih => exact congrArg (_ :: ·) (ih (settle s step))

theorem received_run (s : DelayedSends μ) (step : DelayedStep μ) : s.received <+: (step.run s).2.received := by
  -- Only the passing of time delivers anything.
  have dropped (s : DelayedSends μ) (key : Nat) : (s.drop key).2.received = s.received := by
    unfold DelayedSends.drop
    split <;> rfl
  cases step with
  | send key value delay =>
    have same : (s.send key value delay).2.received = s.received := by
      rw [DelayedSends.send_eq]
      exact dropped _ key
    exact same ▸ List.prefix_rfl
  | drop key => exact (dropped s key) ▸ List.prefix_rfl
  | isFinished key => exact List.prefix_rfl
  | advance span => exact List.prefix_append _ _

/-- The readings together hold all that is received. -/
theorem received_perform (s : DelayedSends μ) (steps : List (DelayedStep μ)) :
    s.received ++ (perform s steps).flatMap DelayedReading.received = (after s steps).received := by
  induction steps generalizing s with
  | nil => exact List.append_nil _
  | cons step rest ih =>
    have grown : s.received <+: (settle s step).received :=
      (received_run s step).trans (List.prefix_append _ _)
    calc s.received ++ ((settle s step).received.drop s.received.length ++
          (perform (settle s step) rest).flatMap DelayedReading.received)
      _ = (settle s step).received ++ (perform (settle s step) rest).flatMap DelayedReading.received := by
        rw [← List.append_assoc, List.prefix_iff_eq_append.mp grown]
      _ = (after s (step :: rest)).received := ih (settle s step)

end DelayedStep
end CallAudio

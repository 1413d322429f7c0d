import CallAudio.Proofs.Sent

/-! The messages that the route thread takes off its queue during a run, and what they make of the devices
that are listed over a profile. -/
namespace CallAudio

namespace Thread

/-- A message that is taken during a run. -/
structure Taking (t : Thread) (moves : List ThreadMove) (message : Message) where
  earlier : List ThreadMove
  move : ThreadMove
  later : List ThreadMove
  split : moves = earlier ++ move :: later
  taken : (t.run earlier).taken move = some message

variable {t : Thread} {moves : List ThreadMove} {m : ThreadMove} {message : Message}

namespace Taking

/-- The thread as it was when it took the message. -/
def before (x : t.Taking moves message) : Thread := t.run x.earlier

/-- The thread once it has taken the message. -/
def after (x : t.Taking moves message) : Thread := t.run (x.earlier ++ [x.move])

def first (h : t.taken m = some message) (rest : List ThreadMove) : t.Taking (m :: rest) message :=
  ⟨[], m, rest, rfl, h⟩

def cons (x : (t.move m).Taking moves message) : t.Taking (m :: moves) message :=
  ⟨m :: x.earlier, x.move, x.later, congrArg (m :: ·) x.split, x.taken⟩

/-- A message is taken by the first move or in the rest of the run. -/
theorem cons_cases {P : t.Taking (m :: moves) message → Prop} (first : ∀ h, P (.first h moves))
    (cons : ∀ x : (t.move m).Taking moves message, P x.cons) (x : t.Taking (m :: moves) message) : P x := by
  obtain ⟨earlier, move, later, split, taken⟩ := x
  cases earlier with
  | nil =>
    obtain ⟨rfl, rfl⟩ := List.cons.inj split
    exact first taken
  | cons m' earlier =>
    obtain ⟨rfl, rfl⟩ := List.cons.inj split
    exact cons ⟨earlier, move, later, rfl, taken⟩

theorem isEmpty_nil : IsEmpty (t.Taking [] message) :=
  ⟨fun x => List.cons_ne_nil _ _ (List.append_eq_nil_iff.mp x.split.symm).2⟩

theorem isEmpty_cons : IsEmpty (t.Taking (m :: moves) message) ↔
    t.taken m ≠ some message ∧ IsEmpty ((t.move m).Taking moves message) := by
  constructor
  · intro none
    exact ⟨fun h => none.false (.first h moves), ⟨fun x => none.false x.cons⟩⟩
  · rintro ⟨other, none⟩
    exact ⟨cons_cases (P := fun _ => False) other none.false⟩

end Taking

/-- What is handled during a run is what is taken. -/
theorem Doing.handled_move (h : t.Doing) (m : ThreadMove) :
    (t.move m).handled = t.handled ++ (t.taken m).toList := by
  obtain ⟨-, stretch⟩ := h.stretch m
  change handledMessages (t.move m).phone.journal = handledMessages t.phone.journal ++ _
  generalize (t.move m).phone = q at stretch ⊢
  cases stretch with
  | still _ none =>
    rw [none]
    exact (List.append_nil _).symm
  | outside o =>
    rw [(t.phone.outside_undisturbed o).journal]
    exact (List.append_nil _).symm
  | stopped => exact (List.append_nil _).symm
  | taken idle queued touches =>
    rw [touches.reports.handled, taken_handle idle queued]
    exact handledMessages_snoc _ _ _
  | resumed touches =>
    rw [touches.reports.handled]
    exact (List.append_nil _).symm

theorem Doing.handled_run (h : t.Doing) (moves : List ThreadMove) : ∃ messages,
    (t.run moves).handled = t.handled ++ messages ∧
      ∀ message ∈ messages, Nonempty (t.Taking moves message) := by
  induction moves generalizing t with
  | nil => exact ⟨[], (List.append_nil _).symm, List.forall_mem_nil _⟩
  | cons m rest ih =>
    obtain ⟨messages, handled, takings⟩ := ih (h.stretch m).1
    refine ⟨(t.taken m).toList ++ messages, ?_, fun message mem => ?_⟩
    · rw [← List.append_assoc, ← h.handled_move]
      exact handled
    · rcases List.mem_append.mp mem with first | later
      · exact ⟨.first (Option.mem_toList.mp first) rest⟩
      · obtain ⟨x⟩ := takings message later
        exact ⟨x.cons⟩

/-- What was queued has been taken once it is all handled. -/
theorem Doing.taking_of_handled (h : t.Doing) {messages : List Message}
    (handled : t.handled ++ messages <+: (t.run moves).handled) (mem : message ∈ messages) :
    Nonempty (t.Taking moves message) := by
  obtain ⟨taken, run, takings⟩ := h.handled_run moves
  rw [run] at handled
  exact takings message (((List.prefix_append_right_inj _).mp handled).subset mem)

variable {profile : Profile} {address : Address}

/-- A device is taken in over the profile during a run, and is not lost from there in the rest of it. -/
def Gains (t : Thread) (moves : List ThreadMove) (profile : Profile) (address : Address) : Prop :=
  ∃ device, ∃ x : t.Taking moves (.deviceAdded device profile), device.address = address ∧
    x.before.phone.registry.Admits device profile ∧
    IsEmpty (x.after.Taking x.later (.deviceLost address profile))

theorem gains_nil : ¬t.Gains [] profile address :=
  fun ⟨_, x, _⟩ => Taking.isEmpty_nil.false x

/-- The move takes a device in over the profile. -/
def Admits (t : Thread) (m : ThreadMove) (profile : Profile) (address : Address) : Prop :=
  ∃ device, t.taken m = some (.deviceAdded device profile) ∧ device.address = address ∧
    t.phone.registry.Admits device profile

theorem gains_cons : t.Gains (m :: moves) profile address ↔ t.Admits m profile address ∧
      IsEmpty ((t.move m).Taking moves (.deviceLost address profile)) ∨
    (t.move m).Gains moves profile address := by
  constructor
  · rintro ⟨device, x, same, admits, kept⟩
    induction x using Taking.cons_cases with
    | first h => exact Or.inl ⟨⟨device, h, same, admits⟩, kept⟩
    | cons x => exact Or.inr ⟨device, x, same, admits, kept⟩
  · rintro (⟨⟨device, h, same, admits⟩, kept⟩ | ⟨device, x, same, admits, kept⟩)
    · exact ⟨device, .first h moves, same, admits, kept⟩
    · exact ⟨device, x.cons, same, admits, kept⟩

/-- Only what the thread takes changes which devices are listed. -/
theorem Doing.holds_move (h : t.Doing) (only : m.Only Outside.SparesDevices) :
    (t.move m).phone.registry.holds profile address ↔
      t.phone.registry.holds profile address ∧ t.taken m ≠ some (.deviceLost address profile) ∨
        t.Admits m profile address := by
  have same {q : Phone} (none : t.taken m = none)
      (devices : q.registry.devices = t.phone.registry.devices) :
      q.registry.holds profile address ↔
        t.phone.registry.holds profile address ∧ t.taken m ≠ some (.deviceLost address profile) ∨
          t.Admits m profile address := by
    unfold Admits
    rw [none, Registry.holds_of_devices devices]
    exact (and_iff_left nofun).symm.trans (or_iff_left fun ⟨_, h, _⟩ => nomatch h).symm
  obtain ⟨-, stretch⟩ := h.stretch m
  generalize (t.move m).phone = q at stretch ⊢
  cases stretch with
  | still _ none => exact same none rfl
  | outside o => exact same rfl (Phone.outside_devices only)
  | stopped => exact same rfl rfl
  | taken idle queued touches devices =>
    unfold Admits
    rw [Registry.holds_of_devices devices, Phone.holds_placed, taken_handle idle queued]
    simp only [Option.some.injEq, ne_eq]
  | resumed touches devices => exact same rfl devices

/-- A device is listed over a profile at the end of a run exactly if it was there before or has been taken
in, and was not lost from there since. -/
theorem Doing.holds_run (h : t.Doing) (only : ∀ m ∈ moves, m.Only Outside.SparesDevices) :
    (t.run moves).phone.registry.holds profile address ↔
      t.phone.registry.holds profile address ∧ IsEmpty (t.Taking moves (.deviceLost address profile)) ∨
        t.Gains moves profile address := by
  induction moves generalizing t with
  | nil => exact ((or_iff_left gains_nil).trans (and_iff_left Taking.isEmpty_nil)).symm
  | cons m rest ih =>
    obtain ⟨first, others⟩ := List.forall_mem_cons.mp only
    change ((t.move m).run rest).phone.registry.holds profile address ↔ _
    rw [ih (h.stretch m).1 others, h.holds_move first, gains_cons, Taking.isEmpty_cons]
    rw [or_and_right, or_assoc, and_assoc]

end Thread
end CallAudio

import CallAudio.Proofs.Stride
import CallAudio.Proofs.Transition.Tokens

/-! What an announcement of an active route rests on, as the journal tells it: the transition begun
last, and the audio that this transition has to bring. -/
namespace CallAudio

/-- The activity of destinations: of the begin handled last, the transition begun last, and the one
resolved last. -/
structure Activity where
  asked : Bool := false
  begun : Bool := false
  resolved : Bool := false

def Activity.after (x : Activity) : Happening → Activity
  | .handled (.beginTransition _ _ destinationActive _) => { x with asked := destinationActive }
  | .begun .. => { x with begun := x.asked }
  | .announced (.routeActive _) => { x with resolved := x.begun }
  | _ => x

def activity (journal : List JournalEntry) : Activity :=
  journal.foldl (fun x e => x.after e.happening) {}

theorem activity_snoc (journal : List JournalEntry) (e : JournalEntry) :
    activity (journal ++ [e]) = (activity journal).after e.happening := List.foldl_append

theorem Activity.after_begun (x : Activity) {happening : Happening}
    (h : happening.isBegun = false) : (x.after happening).begun = x.begun := by
  unfold after
  split
  · rfl
  · cases h
  · rfl
  · rfl

theorem Activity.after_resolved (x : Activity) {happening : Happening}
    (h : ∀ r, happening ≠ .announced (.routeActive r)) :
    (x.after happening).resolved = x.resolved := by
  unfold after
  split
  · rfl
  · rfl
  · exact absurd rfl (h _)
  · rfl

/-- The transition that the journal shows as begun last, with what stands before it. -/
def LastBegun (journal before : List JournalEntry) (origin destination : AudioRoute)
    (destinationActive : Bool) : Prop :=
  ∃ ticket id actions state, journal = before ++
    ⟨.handled (.beginTransition origin destination destinationActive ticket), state⟩ ::
      ⟨.begun id actions, state⟩ :: sinceBegun journal

/-- A transition has to bring audio to a device: its destination is to carry audio, and the origin is
not that destination with audio on it already. -/
def Brings (before : List JournalEntry) (origin destination : AudioRoute)
    (destinationActive : Bool) (address : Address) : Prop :=
  destination.isBluetooth = true ∧ destination.address = some address ∧ destinationActive = true ∧
    ¬(origin = destination ∧ (activity before).resolved = true)

/-- Audio came on a device since the last transition was begun, and is there still unless a later
event told otherwise. -/
def AudioSince (journal : List JournalEntry) (state : RouteState) (address : Address) : Prop :=
  ∃ u w, sinceBegun journal = u ++ ⟨.told (.audioConnected address), .connected address⟩ :: w ∧
    ((∀ e ∈ w, ∀ s, e.happening.audioState? = some s → s = .connected address) →
      state = .connected address)

/-- What an announcement of an active route rests on. -/
def Earned (journal : List JournalEntry) (route : AudioRoute) (state : RouteState) : Prop :=
  ∃ before origin destinationActive, LastBegun journal before origin route destinationActive ∧
    ∀ address, Brings before origin route destinationActive address →
      AudioSince journal state address

section
variable {journal before : List JournalEntry} {state : RouteState} {address : Address}

theorem LastBegun.snoc {origin destination : AudioRoute} {destinationActive : Bool}
    (h : LastBegun journal before origin destination destinationActive) {e : JournalEntry}
    (hb : e.happening.isBegun = false) :
    LastBegun (journal ++ [e]) before origin destination destinationActive := by
  obtain ⟨ticket, id, actions, s, hj⟩ := h
  refine ⟨ticket, id, actions, s, ?_⟩
  rw [sinceBegun_snoc_of_not hb]
  exact (congrArg (· ++ [e]) hj).trans (List.append_assoc ..)

theorem AudioSince.snoc (h : AudioSince journal state address) {e : JournalEntry}
    (hb : e.happening.isBegun = false) :
    AudioSince (journal ++ [e]) (e.happening.audioState?.getD state) address := by
  obtain ⟨u, w, hj, hs⟩ := h
  refine ⟨u, w ++ [e], ?_, fun hw => ?_⟩
  · rw [sinceBegun_snoc_of_not hb, hj, List.append_assoc, List.cons_append]
  · -- An entry that tells of a state is where the state comes from; any other leaves it.
    cases he : e.happening.audioState? with
    | none => exact hs fun x hx => hw x (List.mem_append_left _ hx)
    | some s => exact hw e (List.mem_append_right _ List.mem_cons_self) s he

theorem AudioSince.of_heard {v : RouteView} (hs : v.state = .connected address)
    (h : HeardSinceBegun v address) : AudioSince v.journal v.state address := by
  obtain ⟨u, w, hj⟩ := List.append_of_mem h
  exact ⟨u, w, hj, fun _ => hs⟩

/-- A pending transition is the one begun last, and still waits for the audio that it has to bring
if that did not come. -/
def Backed (journal : List JournalEntry) (state : RouteState) (p : PendingTransition) : Prop :=
  p.destinationActive = (activity journal).begun ∧
    ∃ before, LastBegun journal before p.origin p.destination p.destinationActive ∧
      ∀ address, Brings before p.origin p.destination p.destinationActive address →
        ⟨.bluetoothAudioConnected, some address⟩ ∈ p.outstanding ∨
          AudioSince journal state address

variable {p : PendingTransition}

theorem Backed.snoc (h : Backed journal state p) {e : JournalEntry}
    (hb : e.happening.isBegun = false) :
    Backed (journal ++ [e]) (e.happening.audioState?.getD state) p := by
  obtain ⟨ha, before, hl, hp⟩ := h
  refine ⟨?_, before, hl.snoc hb, fun address hn => ?_⟩
  · rw [activity_snoc, Activity.after_begun _ hb]
    exact ha
  · exact (hp address hn).imp_right fun since => since.snoc hb

theorem Backed.earned (h : Backed journal state p) (he : p.outstanding = []) :
    Earned journal p.destination state := by
  obtain ⟨-, before, hl, hp⟩ := h
  refine ⟨before, p.origin, p.destinationActive, hl, fun address hn => ?_⟩
  apply (hp address hn).resolve_left
  intro hm
  rw [he] at hm
  cases hm

theorem Backed.trimmed (h : Backed journal state p) {i : Nat} {token : ConfirmationToken}
    (hi : p.outstanding[i]? = some token)
    (ht : ∀ address, token = ⟨.bluetoothAudioConnected, some address⟩ →
      AudioSince journal state address) :
    Backed journal state { p with outstanding := swapErase p.outstanding i } := by
  obtain ⟨ha, before, hl, hp⟩ := h
  refine ⟨ha, before, hl, fun address hn => ?_⟩
  rcases hp address hn with hm | since
  · exact (mem_swapErase hi hm).imp_right fun he => ht address he.symm
  · exact Or.inr since

end

/-- The plan of a transition that has to bring audio waits for it. -/
theorem Brings.mem_tokens {before : List JournalEntry} {origin destination : AudioRoute}
    {destinationActive : Bool} {address : Address}
    (h : Brings before origin destination destinationActive address) :
    ⟨.bluetoothAudioConnected, some address⟩ ∈ (TransitionPlan.between (activity before).resolved
      origin destination destinationActive).tokens := by
  obtain ⟨hb, ha, rfl, hn⟩ := h
  have enters : (true && !(decide (origin = destination) && (activity before).resolved)) = true := by
    simpa [Decidable.imp_iff_not_or] using hn
  -- It enters its destination, and audio is the first that this waits for.
  unfold TransitionPlan.between
  simp only [enters, ↓reduceIte, TransitionPlan.entering, hb, ha]
  exact List.mem_append_right _ List.mem_cons_self

/-- An expected token with an address is satisfied by itself only. -/
theorem ConfirmationToken.eq_of_isSatisfiedBy {signal : Signal} {address : Address}
    {observed : ConfirmationToken}
    (h : isSatisfiedBy ⟨signal, some address⟩ observed = true) :
    observed = ⟨signal, some address⟩ := by
  rw [isSatisfiedBy, Bool.and_eq_true, decide_eq_true_eq, Option.isNone_some, Bool.false_or,
    decide_eq_true_eq] at h
  obtain ⟨signal', address'⟩ := observed
  exact congrArg₂ ConfirmationToken.mk h.1.symm h.2.symm

end CallAudio

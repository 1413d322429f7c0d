import CallAudio.Proofs.Stride

/-! What the coordinator makes of the machine's doings for the pending transition: it vouches for audio
only where the machine has it, and has told so since the transition was begun. -/
namespace CallAudio

section
variable {v : RouteView} {before : RouteState} {address : Address}

theorem HeardSinceBegun.recorded (h : HeardSinceBegun v address) {happening : Happening}
    (hb : happening.isBegun = false) : HeardSinceBegun (v.recorded happening) address := by
  change _ ∈ sinceBegun (v.journal ++ [_])
  rw [sinceBegun_snoc_of_not hb]
  exact List.mem_append_left _ h

theorem HeardSinceBegun.quiet {w : RouteView} (h : HeardSinceBegun v address)
    (hq : QuietStride v w) : HeardSinceBegun w address := by
  cases hq with
  | post => exact h
  | record happening hh => exact h.recorded (Happening.isBegun_of_isQuiet hh)

theorem HeardSinceBegun.tracked (h : HeardSinceBegun v address)
    (f : TransitionTracker → Option TransitionOutcome × TransitionTracker) :
    HeardSinceBegun (v.tracked f) address := by
  unfold HeardSinceBegun
  rcases v.tracked_journal f with hj | ⟨event, hj⟩
  · rwa [hj]
  · rw [hj, sinceBegun_snoc_of_not rfl]
    exact List.mem_append_left _ h

/-- The state is the earlier one, or it was told of since the last transition was begun. -/
def Explained (before : RouteState) (v : RouteView) : Prop :=
  v.state = before ∨ ∀ address, v.state = .connected address → HeardSinceBegun v address

theorem Explained.tracked (h : Explained before v)
    (f : TransitionTracker → Option TransitionOutcome × TransitionTracker) :
    Explained before (v.tracked f) := by
  rw [Explained, RouteView.tracked_state]
  exact h.imp_right fun h address hs => (h address hs).tracked f

theorem Explained.machine {w : RouteView} (h : Explained before v) (hm : MachineStride v w) :
    Explained before w := by
  cases hm with
  | quiet hq =>
    have hs : w.state = v.state := by cases hq <;> rfl
    rw [Explained, hs]
    exact h.imp_right fun h address hs => (h address hs).quiet hq
  | off | connecting => exact Or.inr nofun
  | connected address =>
    apply Or.inr
    rintro _ ⟨⟩
    exact heardSinceBegun_told rfl
  | reaffirmed => exact h.imp_right fun h address hs => (h address hs).recorded rfl

end

theorem Via.explained {p q : Phone} (h : Via MachineStride p q) :
    Explained p.machine.state q.view :=
  h.keeps (fun _ _ stride explained => explained.machine stride) (Or.inl rfl)

theorem Via.strides {p q : Phone} (h : Via MachineStride p q) : Via Stride p q :=
  h.mono fun _ _ => .machine

theorem Via.tracked (p : Phone)
    {f : TransitionTracker → Option TransitionOutcome × TransitionTracker}
    (h : Licensed p.view f) : Via Stride p (p.track f) := by
  apply Via.single
  rw [Phone.view_track]
  exact .tracked f h

namespace Phone

section
variable (p : Phone) {before : RouteState}

theorem confirm_view (signal : Signal) (address : Address) :
    (p.confirm signal address).view = p.view ∨ ∃ id, (p.confirm signal address).view =
      p.view.tracked (·.confirm ⟨id, signal, some address⟩) := by
  unfold confirm
  split
  · exact Or.inl rfl
  · rename_i pending _
    exact Or.inr ⟨some pending.id, p.view_track _⟩

theorem explained_confirm (h : Explained before p.view) (signal : Signal) (address : Address) :
    Explained before (p.confirm signal address).view := by
  rcases p.confirm_view signal address with hv | ⟨_, hv⟩
  · rwa [hv]
  · rw [hv]
    exact h.tracked _

theorem confirm_via (signal : Signal) (address : Address)
    (h : signal = .bluetoothAudioConnected →
      p.machine.state = .connected address ∧ HeardSinceBegun p.view address) :
    Via Stride p (p.confirm signal address) := by
  unfold confirm
  split
  · exact .refl
  · exact Via.tracked p (.own _ signal address h)

theorem onConnectOutcome_via (outcome : ConnectOutcome)
    (h : ∀ address, outcome = .reaffirmed address →
      p.machine.state = .connected address ∧ HeardSinceBegun p.view address) :
    Via Stride p (p.onConnectOutcome outcome) := by
  unfold onConnectOutcome
  split
  · rename_i address
    have confirmed := p.confirm_via .bluetoothAudioConnected address fun _ => h address rfl
    dsimp only
    split
    · exact confirmed.trans (confirm_via _ _ _ nofun)
    · exact confirmed
  · exact .refl

theorem explained_onConnectOutcome (outcome : ConnectOutcome) (h : Explained before p.view) :
    Explained before (p.onConnectOutcome outcome).view := by
  unfold onConnectOutcome
  split
  · dsimp only
    split
    · exact explained_confirm _ (p.explained_confirm h _ _) _ _
    · exact p.explained_confirm h _ _
  · exact h

section
variable {α : Type} {see : RouteView → α}
  (blind : ∀ (v : RouteView) (f : TransitionTracker → Option TransitionOutcome × TransitionTracker),
    see (v.tracked f) = see v)
include blind

/-- Whatever does not show what the tracker does shows nothing of what the coordinator makes of the
machine's doings. -/
theorem confirm_untracked (signal : Signal) (address : Address) :
    see (p.confirm signal address).view = see p.view := by
  rcases p.confirm_view signal address with h | ⟨id, h⟩
  · rw [h]
  · rw [h, blind]

theorem onConnectOutcome_untracked (outcome : ConnectOutcome) :
    see (p.onConnectOutcome outcome).view = see p.view := by
  unfold onConnectOutcome
  split
  · dsimp only
    split
    · rw [confirm_untracked _ blind, confirm_untracked _ blind]
    · rw [confirm_untracked _ blind]
  · rfl

theorem onStateChanged_untracked (before : RouteState) :
    see (p.onStateChanged before).view = see p.view := by
  have left : see (p.confirmLeft before).view = see p.view := by
    unfold confirmLeft
    split
    · exact p.confirm_untracked blind _ _
    · rfl
  have entered (q : Phone) (after : RouteState) : see (q.confirmEntered after).view = see q.view := by
    unfold confirmEntered
    split
    · exact q.confirm_untracked blind _ _
    · rfl
  have failed (q : Phone) (after : RouteState) :
      see (q.failAttempted before after).view = see q.view := by
    unfold failAttempted
    split
    · dsimp only
      split
      · rw [view_track, blind]
      · rfl
    · rfl
  unfold onStateChanged
  dsimp only
  split
  · rfl
  · rw [failed, entered, left]

end

theorem confirmLeft_via : Via Stride p (p.confirmLeft before) := by
  unfold confirmLeft
  split
  · exact confirm_via _ _ _ nofun
  · exact .refl

theorem explained_confirmLeft (state : RouteState) (h : Explained before p.view) :
    Explained before (p.confirmLeft state).view := by
  unfold confirmLeft
  split
  · exact p.explained_confirm h _ _
  · exact h

@[simp] theorem confirm_state (signal : Signal) (address : Address) :
    (p.confirm signal address).machine.state = p.machine.state := by
  rcases p.confirm_view signal address with hv | ⟨_, hv⟩
  · exact congrArg RouteView.state hv
  · exact (congrArg RouteView.state hv).trans (RouteView.tracked_state _ _)

@[simp] theorem confirmLeft_state : (p.confirmLeft before).machine.state = p.machine.state := by
  unfold confirmLeft
  split
  · exact p.confirm_state _ _
  · rfl

theorem confirmEntered_via
    (h : ∀ address, p.machine.state = .connected address → HeardSinceBegun p.view address) :
    Via Stride p (p.confirmEntered p.machine.state) := by
  unfold confirmEntered
  split
  · rename_i address hs
    exact p.confirm_via _ _ fun _ => ⟨hs, h address hs⟩
  · exact .refl

theorem failAttempted_via (after : RouteState) : Via Stride p (p.failAttempted before after) := by
  unfold failAttempted
  split
  · dsimp only
    split
    · exact Via.tracked p (.fail _)
    · exact .refl
  · exact .refl

theorem onStateChanged_via (h : Explained before p.view) :
    Via Stride p (p.onStateChanged before) := by
  unfold onStateChanged
  dsimp only
  split
  · exact .refl
  · rename_i hne
    -- Confirming that audio left the old device tells nothing new of the state, so if the state is
    -- not the old one it was told of since the transition was begun.
    have hl := p.explained_confirmLeft before h
    have hs : (p.confirmLeft before).machine.state = p.machine.state := p.confirmLeft_state
    have entered := confirmEntered_via (p.confirmLeft before)
      (hl.resolve_left fun he => hne (he.symm.trans hs))
    rw [hs] at entered
    exact (p.confirmLeft_via.trans entered).trans (failAttempted_via _ _)

theorem clearStaleDeadline_view : p.clearStaleDeadline.view = p.view := by
  unfold clearStaleDeadline
  split
  · exact p.view_dropDeadline
  · rfl

theorem setCommunicationKind_view (kind : EndpointKind) :
    (p.setCommunicationKind kind).view = p.view ∨
      (p.setCommunicationKind kind).view = p.view.tracked (·.fail none) := by
  obtain ⟨platform, h | h⟩ := p.setCommunicationKind_eq kind
  · left
    rw [h]
    rfl
  · right
    rw [h, view_track]
    rfl

theorem setCommunicationKind_via (kind : EndpointKind) :
    Via Stride p (p.setCommunicationKind kind) := by
  rcases p.setCommunicationKind_view kind with hv | hv
  · exact Via.of_view_eq hv
  · apply Via.single
    rw [hv]
    exact .tracked _ (.fail none)

theorem setCommunicationKind_state (kind : EndpointKind) :
    (p.setCommunicationKind kind).machine.state = p.machine.state := by
  rcases p.setCommunicationKind_view kind with hv | hv
  · exact congrArg RouteView.state hv
  · exact (congrArg RouteView.state hv).trans (RouteView.tracked_state _ _)

end

end Phone
end CallAudio

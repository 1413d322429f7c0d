import CallAudio.Proofs.Stride

/-! The state machine takes machine strides only, and where it waits it has taken some of them. -/
namespace CallAudio

theorem Via.quiet_state {p q : Phone} (h : Via QuietStride p q) :
    q.machine.state = p.machine.state := by
  have kept (v w : RouteView) (hs : QuietStride v w) (hv : v.state = p.machine.state) :
      w.state = p.machine.state := by
    cases hs <;> exact hv
  exact h.keeps kept rfl

namespace Phone
open Job

/-- The job tells listeners nothing about audio and transitions. -/
def Quiet {α : Type} (job : Job α) (p : Phone) : Prop :=
  job.Along (Via QuietStride) p fun _ _ => True

theorem Quiet.along {α : Type} {job : Job α} {p : Phone} (h : Quiet job p) :
    job.Along (Via MachineStride) p fun _ q => Via QuietStride p q :=
  h.mono (fun _ hq => hq.mono fun _ _ => .quiet) fun _ _ hq _ => hq

theorem quiet_pure {α : Type} (value : α) (p : Phone) : Quiet (pure value) p :=
  along_pure quietPassage trivial

theorem finishConnect_quiet (p : Phone) (address : Address) (switching : Bool) :
    Quiet (finishConnect address switching) p := by
  refine ⟨Via.of_view_eq ?_, trivial⟩
  cases switching
  · exact p.view_makeCommunicationDevice address
  · rfl

theorem connectAudio_quiet (p : Phone) (address : Address) (switching : Bool) :
    Quiet (connectAudio address switching) p := by
  have hR := quietPassage
  refine along_update_bind hR (Via.record (fun _ _ h => h) p rfl) (along_read_bind ?_)
  generalize p.record (.audioRequested address) = q
  split
  · exact quiet_pure ..
  · apply along_awaitHeadset_bind hR
    intro attached os
    split
    · apply along_change_bind hR (Via.of_view_eq (view_activate ..))
      split
      · apply along_change_bind hR (Via.of_view_eq (view_connectSco _))
        split
        · exact finishConnect_quiet ..
        · exact quiet_pure ..
      · exact quiet_pure ..
    · exact quiet_pure ..
  · apply along_change_bind hR (Via.of_view_eq (view_activate ..))
    split
    · exact finishConnect_quiet ..
    · exact quiet_pure ..

theorem releaseCommunicationDevice_quiet (p : Phone) :
    Via QuietStride p p.releaseCommunicationDevice := by
  obtain ⟨platform, h | ⟨address, h⟩⟩ := p.releaseCommunicationDevice_eq
  · rw [h]
    exact Via.of_view_eq rfl
  · rw [h]
    refine Via.trans ?_ (Via.post (fun _ _ h => h) _ _)
    exact Via.of_view_eq rfl

theorem disconnectAudio_quiet (p : Phone) : Quiet disconnectAudio p := by
  have hR := quietPassage
  apply along_update_bind hR (Via.record (fun _ _ h => h) p rfl)
  refine along_awaitHeadset_bind hR fun attached os => along_update ?_ trivial
  cases attached
  · exact releaseCommunicationDevice_quiet _
  · refine Via.trans ?_ (releaseCommunicationDevice_quiet _)
    exact Via.of_view_eq rfl

theorem carryingAudio_quiet (p : Phone) : Quiet carryingAudio p := by
  have hR := quietPassage
  apply along_read_bind
  split
  · exact along_read_bind (quiet_pure ..)
  · exact along_awaitHeadset_bind hR fun attached os => along_read_bind (quiet_pure ..)

/-- The first part of a move, which listeners do not hear of. -/
def departed (target : RouteState) (p : Phone) : Phone :=
  ({ p with machine := { p.machine with state := target } }.dropRetry.dropConnectionTimer).note
    (.moved p.machine.state target)

theorem view_departed (p : Phone) (target : RouteState) :
    (p.departed target).view = p.view.moved target := by
  simp only [departed, view_note, view_dropConnectionTimer, view_dropRetry]
  rfl

theorem moveTo_off (p : Phone) : Via MachineStride p (p.moveTo .audioOff) := by
  unfold moveTo
  dsimp only
  split
  · exact .refl
  · rename_i h
    apply Via.single
    change MachineStride p.view ((p.departed .audioOff).view.recorded (.told .audioDisconnected))
    rw [view_departed]
    exact .off (Ne.symm h)

theorem moveTo_connecting (p : Phone) (address : Address)
    (h : p.machine.state ≠ .connecting address) :
    Via MachineStride p ((p.tell (.audioConnecting address)).moveTo (.connecting address)) := by
  unfold moveTo
  dsimp only
  split
  · rename_i he
    exact absurd he.symm h
  · apply Via.single
    change MachineStride p.view ((p.tell (.audioConnecting address)).departed _).view
    rw [view_departed, view_tell]
    exact .connecting address h

theorem moveTo_connected (p : Phone) (address : Address) :
    Via MachineStride p (p.moveTo (.connected address)) := by
  unfold moveTo
  dsimp only
  split
  · exact .refl
  · rename_i h
    have told (q : Phone) (hq : q.view = p.view.moved (.connected address)) :
        Via MachineStride p ((q.tell (.audioConnected address)).makeCommunicationDevice address).2 := by
      apply Via.single
      rw [view_makeCommunicationDevice, view_tell, hq]
      exact .connected address (Ne.symm h)
    have arrived := told
      { p.departed (.connected address) with
        machine := (p.departed (.connected address)).machine.use address }
      (view_departed ..)
    -- If the device cannot become the communication device the failure is only posted.
    split
    · exact arrived
    · exact arrived.trans (Via.post (fun _ _ => .quiet) _ _)

theorem moveToActualState_along (p : Phone) :
    moveToActualState.Along (Via MachineStride) p fun _ _ => True := by
  apply Along.bind (carryingAudio_quiet p).along machinePassage
  intro found q _ _
  cases found with
  | none => exact along_update (moveTo_off q) trivial
  | some address => exact along_update (moveTo_connected q address) trivial

theorem onDeviceAdded_quiet (p : Phone) (device : Device) (profile : Profile) :
    Via QuietStride p (p.onDeviceAdded device profile) := by
  have added : Via QuietStride p (p.addDevice device profile).2 :=
    Via.of_view_eq (p.view_addDevice device profile)
  rcases p.onDeviceAdded_eq device profile with h | h
  · rwa [h]
  · rw [h]
    exact added.trans (Via.record (fun _ _ h => h) _ rfl)

theorem onActiveDeviceChanged_quiet (p : Phone) (profile : Profile) (address : Option Address) :
    Via QuietStride p (p.onActiveDeviceChanged profile address) := by
  have changed : Via QuietStride p (p.setActiveDevice profile address).2 :=
    Via.of_view_eq (p.view_setActiveDevice profile address)
  rcases p.onActiveDeviceChanged_eq profile address with h | h | h
  · rwa [h]
  · rw [h]
    exact changed.trans (Via.record (fun _ _ h => h) _ rfl)
  · rw [h]
    exact changed.trans (Via.record (fun _ _ h => h) _ rfl)

theorem onAudioOn_along (p : Phone) (address : Address) :
    Via MachineStride p (p.onAudioOn address) := by
  unfold onAudioOn
  split
  · exact moveTo_connected p address
  · exact .refl

theorem onDeviceLost_along (p : Phone) (address : Address) (profile : Profile) :
    (onDeviceLost address profile).Along (Via MachineStride) p fun _ _ => True := by
  have hR := machinePassage
  apply along_change_bind hR (Via.of_view_eq (p.view_removeDevice address profile))
  split
  · -- Only the loss of the live device moves the machine.
    refine along_update_bind hR (Via.record (fun _ _ => .quiet) _ rfl) (along_read_bind ?_)
    split
    · exact along_pure hR trivial
    · refine along_update_bind hR (Via.of_view_eq rfl) (along_read_bind ?_)
      split
      · exact moveToActualState_along _
      · exact along_pure hR trivial
  · exact along_pure hR trivial

theorem onConnectionTimeout_along (p : Phone) (address : Address) :
    (onConnectionTimeout address).Along (Via MachineStride) p fun _ _ => True := by
  apply along_read_bind
  split
  · exact along_update_bind machinePassage (Via.of_view_eq (p.view_note _))
      (moveToActualState_along _)
  · exact along_pure machinePassage trivial

theorem onAudioLost_along (p : Phone) (address : Option Address) :
    (onAudioLost address).Along (Via MachineStride) p fun _ _ => True := by
  apply along_read_bind
  split
  · exact moveToActualState_along p
  · dsimp only
    split
    · exact moveToActualState_along p
    · exact along_update_bind machinePassage (Via.of_view_eq (p.view_note _))
        (along_update (Via.record (fun _ _ => .quiet) _ rfl) trivial)

theorem disconnect_quiet (p : Phone) : Quiet disconnect p := by
  apply along_update_bind quietPassage (Via.of_view_eq p.view_dropRetry)
  exact along_update_bind quietPassage (Via.of_view_eq (view_note _ _)) (disconnectAudio_quiet _)

theorem onRejected_quiet (p : Phone) (target : Address) (attempt : Nat)
    (failure : ConnectFailure) : Via QuietStride p (p.onRejected target attempt failure) := by
  unfold onRejected
  dsimp only
  split
  · apply Via.of_view_eq
    rw [view_scheduleRetry, view_note]
  · refine Via.trans ?_ (Via.post (fun _ _ h => h) _ _)
    apply Via.of_view_eq
    rw [view_dropRetry, view_note]

theorem startConnect_along (p : Phone) (target : Address) (attempt : Nat)
    (h : p.machine.state ≠ .connecting target) :
    (startConnect target attempt).Along (Via MachineStride) p
      fun outcome _ => ∀ address, outcome ≠ .reaffirmed address := by
  have hR := machinePassage
  have released (switching : Bool) : Quiet (Job.when switching disconnectAudio) p := by
    cases switching
    · exact quiet_pure ..
    · exact disconnectAudio_quiet p
  apply along_read_bind
  apply Along.bind (released _).along hR
  intro _ q _ hq
  apply Along.bind (connectAudio_quiet q target _).along hR
  intro result r _ hr
  cases result with
  | ok =>
    -- Listeners heard of nothing so far, and so the machine does not connect to the device yet.
    have hs : r.machine.state ≠ .connecting target := by rwa [hr.quiet_state, hq.quiet_state]
    exact ⟨moveTo_connecting r target hs, nofun⟩
  | error failure =>
    apply along_update_bind hR ((onRejected_quiet r ..).mono fun _ _ => .quiet)
    exact along_pure hR nofun

/-- What a reaffirmed connect vouches for. -/
def Vouched (p q : Phone) (address : Address) : Prop :=
  q.machine.state = p.machine.state ∧ q.machine.state = .connected address ∧
    HeardSinceBegun q.view address

theorem connect_along (p : Phone) (requested : Option Address) (attempt : Nat) :
    (connect requested attempt).Along (Via MachineStride) p
      fun outcome q => ∀ address, outcome = .reaffirmed address → Vouched p q address := by
  have hR := machinePassage
  have hd : (if attempt = 0 then p.dropRetry else p).view = p.view := by
    split
    · exact p.view_dropRetry
    · rfl
  refine along_update_bind hR (Via.of_view_eq hd) (along_read_bind ?_)
  have hs : (if attempt = 0 then p.dropRetry else p).machine.state = p.machine.state :=
    congrArg RouteView.state hd
  generalize (if attempt = 0 then p.dropRetry else p) = q at hs
  split
  · apply along_update_bind hR (Via.of_view_eq (view_note _ _))
    exact along_update_bind hR (Via.post (fun _ _ => .quiet) _ _) (along_pure hR nofun)
  · rename_i target _
    split
    · rename_i hc
      refine along_update_bind hR (Via.single (.reaffirmed target hc)) (along_pure hR ?_)
      rintro _ ⟨⟩
      have heard : HeardSinceBegun (q.tell (.audioConnected target)).view target := by
        rw [view_tell]
        exact heardSinceBegun_told hc
      exact ⟨hs, hc, heard⟩
    · split
      · exact along_pure hR nofun
      · rename_i hn
        exact (startConnect_along q target attempt hn).post_mono
          fun outcome _ _ ho address he => absurd he (ho address)

theorem retryConnect_along (p : Phone) (address : Address) (attempt : Nat) :
    (retryConnect address attempt).Along (Via MachineStride) p
      fun outcome q => ∀ target, outcome = some (.reaffirmed target) → Vouched p q target := by
  have hR := machinePassage
  apply along_read_bind
  split
  · exact along_pure hR nofun
  split
  · exact along_pure hR nofun
  apply Along.bind (connect_along p (some address) attempt) hR
  intro outcome q _ hv
  exact along_pure hR fun target ht => hv target (Option.some.inj ht)

end Phone
end CallAudio

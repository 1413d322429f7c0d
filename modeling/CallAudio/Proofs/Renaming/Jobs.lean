import CallAudio.Proofs.Renaming.Phone

/-! Renaming goes through the jobs of the route thread: from the renamed phone a job takes the renamed
steps, whatever happens to the phone while it waits. -/
namespace CallAudio

variable {α β : Type} {ρ : Renaming}

/-- The second step is what renaming makes of the first; `v` says what it makes of values. -/
inductive Step.Renamed (ρ : Renaming) (v : α → α) : Step α → Step α → Prop
  | done (value : α) (p : Phone) : Renamed ρ v (.done value p) (.done (v value) (ρ.phone p))
  | wait (p : Phone) {resume resume' : Bool → Phone → Step α}
      (h : ∀ attached q, Renamed ρ v (resume attached q) (resume' attached (ρ.phone q))) :
      Renamed ρ v (.wait p resume) (.wait (ρ.phone p) resume')

/-- Whatever phone a job starts from, the second job does the same from the renamed phone. -/
def Job.Renamed (ρ : Renaming) (v : α → α) (job job' : Job α) : Prop :=
  ∀ p, (job p).Renamed ρ v (job' (ρ.phone p))

variable {v : α → α} {w : β → β}

theorem Step.Renamed.bind {s s' : Step α} (h : s.Renamed ρ v s') {next next' : α → Job β}
    (hn : ∀ x, (next x).Renamed ρ w (next' (v x))) : (s.bind next).Renamed ρ w (s'.bind next') := by
  induction h with
  | done value p => exact hn value p
  | wait p _ ih => exact .wait p ih

namespace Job.Renamed

theorem pure (x : α) : Job.Renamed ρ v (Pure.pure x) (Pure.pure (v x)) := fun p => .done x p

theorem bind {job job' : Job α} (h : job.Renamed ρ v job') {next next' : α → Job β}
    (hn : ∀ x, (next x).Renamed ρ w (next' (v x))) : (job >>= next).Renamed ρ w (job' >>= next') :=
  fun p => (h p).bind hn

theorem read : Job.read.Renamed ρ ρ.phone Job.read := fun p => .done p p

theorem update {f g : Phone → Phone} (h : ∀ p, ρ.phone (f p) = g (ρ.phone p)) :
    (Job.update f).Renamed ρ id (Job.update g) := by
  intro p
  change Step.Renamed ρ id _ (.done () (g (ρ.phone p)))
  rw [← h]
  exact .done () (f p)

theorem change {f g : Phone → α × Phone} (h : ∀ p, g (ρ.phone p) = (f p).map v ρ.phone) :
    (Job.change f).Renamed ρ v (Job.change g) := by
  intro p
  change Step.Renamed ρ v _ (.done (g (ρ.phone p)).1 (g (ρ.phone p)).2)
  rw [h]
  exact .done (f p).1 (f p).2

theorem ite {c c' : Prop} [Decidable c] [Decidable c'] (hc : c' ↔ c) {job job' other other' : Job α}
    (h : job.Renamed ρ v job') (ho : other.Renamed ρ v other') :
    (if c then job else other).Renamed ρ v (if c' then job' else other') := by
  by_cases holds : c
  · rwa [if_pos holds, if_pos (hc.mpr holds)]
  · rwa [if_neg holds, if_neg (holds ∘ hc.mp)]

theorem awaitHeadset : Job.awaitHeadset.Renamed ρ id Job.awaitHeadset := by
  intro p
  change Step.Renamed ρ id _ (if p.registry.bound.classicHeadset then _ else _)
  unfold Job.awaitHeadset
  split
  · exact .done true p
  · exact .wait p fun attached q => .done attached q

end Job.Renamed

namespace Phone

theorem finishConnect_renamed (address : Address) (switching : Bool) :
    (finishConnect address switching).Renamed ρ id (finishConnect (ρ address) switching) := by
  refine .bind (.update fun p => ?_) fun _ => .pure _
  rw [ρ.makeCommunicationDevice_phone]
  exact apply_ite ρ.phone _ _ _

theorem connectAudio_renamed (address : Address) (switching : Bool) :
    (connectAudio address switching).Renamed ρ id (connectAudio (ρ address) switching) := by
  have finish : (finishConnect address switching).Renamed ρ id (finishConnect (ρ address) switching) :=
    finishConnect_renamed address switching
  have activated (use : ActiveUse) : (Job.change (activate address use)).Renamed ρ id
      (Job.change (activate (ρ address) use)) := .change fun p => ρ.activate_phone p address use
  refine .bind (.update fun p => ρ.phone_record p _) fun _ => .bind .read fun p => ?_
  have profileOf : (ρ.phone p).registry.profileOf (ρ address) = p.registry.profileOf address :=
    ρ.profileOf_registry p.registry address
  rw [profileOf]
  match p.registry.profileOf address with
  | none => exact .pure _
  | some .classicHeadset =>
    refine .bind .awaitHeadset fun attached => ?_
    cases attached with
    | false => exact .pure _
    | true =>
      refine .bind (activated .phoneCall) fun accepted => ?_
      cases accepted with
      | false => exact .pure _
      | true =>
        refine .bind (.change fun p => ρ.connectSco_phone p) fun reply => ?_
        change Job.Renamed ρ id (if reply.isAccepted then _ else _) (if reply.isAccepted then _ else _)
        split
        · exact finish
        · exact .pure _
  | some .hearingAid | some .leAudio =>
    refine .bind (activated .all) fun accepted => ?_
    cases accepted with
    | false => exact .pure _
    | true => exact finish

theorem disconnectAudio_renamed : disconnectAudio.Renamed ρ id disconnectAudio := by
  refine .bind (.update fun p => ρ.phone_record p _) fun _ => .bind .awaitHeadset fun attached =>
    .update fun p => ?_
  rw [ρ.phone_releaseCommunicationDevice]
  cases attached <;> rfl

theorem carryingAudio_renamed : carryingAudio.Renamed ρ (Option.map ρ) carryingAudio := by
  refine .bind .read fun p => ?_
  have active : (ρ.phone p).registry.active.classicHeadset = p.registry.active.classicHeadset.map ρ := rfl
  rw [active]
  cases p.registry.active.classicHeadset with
  | none =>
    refine .bind .read fun q => ?_
    rw [ρ.communicationCarrier_phone]
    exact .pure _
  | some address =>
    refine .bind .awaitHeadset fun attached => .bind .read fun q => ?_
    have linked : (ρ.phone q).platform.headset.state (ρ address) = q.platform.headset.state address :=
      congrArg (Option.getD · ScoState.disconnected)
        (Table.get?_mapKeys ρ.injective q.platform.headset.states address)
    dsimp only [id_eq]
    rw [ρ.communicationCarrier_phone, linked]
    let decided := attached && q.platform.headset.state address = .connected
    have carrier : (if decided then some (ρ address) else q.communicationCarrier.map ρ) =
        (if decided then some address else q.communicationCarrier).map ρ :=
      (apply_ite (Option.map ρ) _ (some address) q.communicationCarrier).symm
    change Job.Renamed ρ _ (pure (if decided then _ else _)) (pure (if decided then _ else _))
    rw [carrier]
    exact .pure _

theorem moveToActualState_renamed : moveToActualState.Renamed ρ id moveToActualState := by
  refine .bind carryingAudio_renamed fun carrier => ?_
  cases carrier with
  | some address => exact .update fun p => ρ.phone_moveTo p (.connected address)
  | none => exact .update fun p => ρ.phone_moveTo p .audioOff

theorem onDeviceLost_renamed (address : Address) (profile : Profile) :
    (onDeviceLost address profile).Renamed ρ id (onDeviceLost (ρ address) profile) := by
  refine .bind (.change fun p => ρ.removeDevice_phone p address profile) fun removed => ?_
  cases removed with
  | false => exact .pure _
  | true =>
    refine .bind (.update fun p => ρ.phone_tell p _) fun _ => .bind .read fun p => ?_
    refine .ite (ρ.isConnected_phone p address) (.pure _) ?_
    refine .bind (.update fun q => ρ.phone_unuse q address) fun _ => .bind .read fun q => ?_
    exact .ite (ρ.live_phone q address) moveToActualState_renamed (.pure _)

theorem startConnect_renamed (target : Address) (attempt : Nat) :
    (startConnect target attempt).Renamed ρ ρ.outcome (startConnect (ρ target) attempt) := by
  refine .bind .read fun p => ?_
  have switching : (ρ.phone p).machine.state.liveAddress.any (· ≠ ρ target) =
      p.machine.state.liveAddress.any (· ≠ target) := by
    change (ρ.state p.machine.state).liveAddress.any _ = _
    rw [ρ.liveAddress_state, Option.any_map]
    simp only [ne_eq, ρ.apply_inj]
  dsimp only
  rw [switching]
  refine .bind (.ite Iff.rfl disconnectAudio_renamed (.pure _)) fun _ => ?_
  refine .bind (connectAudio_renamed target _) fun result => ?_
  cases result with
  | ok =>
    refine .bind (.update fun p => ρ.phone_tell p (.audioConnecting target)) fun _ => ?_
    exact .bind (.update fun p => ρ.phone_moveTo p (.connecting target)) fun _ =>
      .pure (ConnectOutcome.started target)
  | error failure =>
    exact .bind (.update fun p => ρ.phone_onRejected p target attempt failure) fun _ =>
      .pure (ConnectOutcome.rejected target)

theorem connect_renamed (requested : Option Address) (attempt : Nat) :
    (connect requested attempt).Renamed ρ ρ.outcome (connect (requested.map ρ) attempt) := by
  refine .bind (.update fun p => ?_) fun _ => .bind .read fun p => ?_
  · rw [apply_ite ρ.phone, ρ.phone_dropRetry]
  -- the renamed registry resolves the request to the renamed device, which is live if this one is
  have target : (ρ.phone p).registry.connectTarget (requested.map ρ) (ρ.phone p).machine.recent =
      (p.registry.connectTarget requested p.machine.recent).map ρ :=
    ρ.connectTarget_registry p.registry requested p.machine.recent
  rw [target]
  cases p.registry.connectTarget requested p.machine.recent with
  | none =>
    refine .bind (.update fun q => ρ.phone_note q (.noDevices requested)) fun _ => ?_
    exact .bind (.update fun q => ρ.phone_post q (.transitionFailed requested)) fun _ =>
      .pure ConnectOutcome.noDevice
  | some target =>
    refine .ite ρ.state_eq_connected ?_ (.ite ρ.state_eq_connecting
      (.pure (ConnectOutcome.alreadyConnecting target)) (startConnect_renamed target attempt))
    exact .bind (.update fun q => ρ.phone_tell q (.audioConnected target)) fun _ =>
      .pure (ConnectOutcome.reaffirmed target)

theorem retryConnect_renamed (address : Address) (attempt : Nat) :
    (retryConnect address attempt).Renamed ρ (Option.map ρ.outcome) (retryConnect (ρ address) attempt) := by
  refine .bind .read fun p => .ite (ρ.live_phone p address) (.pure _) (.ite Iff.rfl (.pure _) ?_)
  exact .bind (connect_renamed (some address) attempt) fun outcome => .pure (some outcome)

theorem disconnect_renamed : disconnect.Renamed ρ id disconnect := by
  refine .bind (.update fun p => ρ.phone_dropRetry p) fun _ => ?_
  exact .bind (.update fun p => ρ.phone_note p (.disconnectRequested p.machine.state)) fun _ =>
    disconnectAudio_renamed

theorem onConnectionTimeout_renamed (address : Address) :
    (onConnectionTimeout address).Renamed ρ id (onConnectionTimeout (ρ address)) := by
  refine .bind .read fun p => .ite ρ.state_eq_connecting ?_ (.pure _)
  exact .bind (.update fun q => ρ.phone_note q (.timedOut address)) fun _ => moveToActualState_renamed

theorem onAudioLost_renamed (address : Option Address) :
    (onAudioLost address).Renamed ρ id (onAudioLost (address.map ρ)) := by
  refine .bind .read fun p => ?_
  cases address with
  | none => exact moveToActualState_renamed
  | some lost =>
    refine .ite (ρ.live_phone p lost) moveToActualState_renamed ?_
    refine .bind (.update fun q => ρ.phone_note q (.unexpectedLoss lost p.machine.state)) fun _ => ?_
    exact .update fun q => ρ.phone_tell q .unexpectedStateChange

theorem perform_renamed (action : RouteAction) :
    (perform action).Renamed ρ id (perform (ρ.action action)) := by
  have performed : (Job.update (record (.performed action))).Renamed ρ id
      (Job.update (record (.performed (ρ.action action)))) := .update fun p => ρ.phone_record p _
  cases action with
  | connectBluetooth address =>
    exact .bind (connect_renamed address 0) fun outcome => .bind performed fun _ =>
      .update fun p => ρ.phone_onConnectOutcome p outcome
  | disconnectBluetooth => exact .bind disconnect_renamed fun _ => performed
  | setCommunicationDevice kind =>
    exact .bind performed fun _ => .update fun p => ρ.phone_setCommunicationKind p kind
  | clearCommunicationDevice =>
    exact .bind (.update fun p => ρ.phone_clearCommunicationDevice p) fun _ => performed

theorem performAll_renamed (actions : List RouteAction) :
    (performAll actions).Renamed ρ id (performAll (actions.map ρ.action)) := by
  -- the state before an action is read from each phone, so what the change of state means is renamed too
  induction actions with
  | nil => exact .pure ()
  | cons action rest ih =>
    refine .bind .read fun p => .bind (perform_renamed action) fun _ => ?_
    exact .bind (.update fun q => ρ.phone_onStateChanged q p.machine.state) fun _ => ih

theorem beginTransition_renamed (origin destination : AudioRoute) (destinationActive : Bool) :
    (beginTransition origin destination destinationActive).Renamed ρ id
      (beginTransition (ρ.route origin) (ρ.route destination) destinationActive) := by
  refine .bind (v := Prod.map id (List.map ρ.action)) (.change fun p => ?_) fun (id, actions) => ?_
  · let begun := p.tracker.begin origin destination destinationActive
    have recorded := ρ.phone_record { p with tracker := begun.2.2 } (.begun begun.1 begun.2.1)
    have renamed := ρ.begin_tracker p.tracker origin destination destinationActive
    refine (congrArg (fun begun : TransitionId × List RouteAction × TransitionTracker =>
      ((begun.1, begun.2.1), { ρ.phone p with tracker := begun.2.2 }.record (.begun begun.1 begun.2.1)))
      renamed).trans ?_
    exact Prod.ext rfl recorded.symm
  · refine .bind (.update fun p => ρ.phone_startDeadline p id) fun _ => ?_
    refine .bind (performAll_renamed actions) fun _ => ?_
    exact .bind (.update fun p => ρ.phone_track p ρ.settle_tracker) fun _ => .pure id

theorem act_renamed (message : Message) : (act message).Renamed ρ id (act (ρ.message message)) := by
  cases message with
  | deviceAdded device profile => exact .update fun p => ρ.phone_onDeviceAdded p device profile
  | deviceLost address profile => exact onDeviceLost_renamed address profile
  | activeDeviceChanged profile address =>
    exact .update fun p => ρ.phone_onActiveDeviceChanged p profile address
  | connect address =>
    exact .bind (connect_renamed address 0) fun outcome =>
      .update fun p => ρ.phone_onConnectOutcome p outcome
  | retryConnect address attempt =>
    refine .bind (retryConnect_renamed address attempt) fun outcome => ?_
    cases outcome with
    | none => exact .pure ()
    | some outcome => exact .update fun p => ρ.phone_onConnectOutcome p outcome
  | disconnect => exact disconnect_renamed
  | connectionTimeout address => exact onConnectionTimeout_renamed address
  | audioOn address => exact .update fun p => ρ.phone_onAudioOn p address
  | audioLost address => exact onAudioLost_renamed address
  | beginTransition origin destination destinationActive ticket =>
    exact .bind (beginTransition_renamed origin destination destinationActive) fun id =>
      .update fun p => ρ.phone_answer p ticket (.begun id)
  | confirmation c => exact .update fun p => ρ.phone_track p fun t => ρ.confirm_tracker t c
  | transitionFailed address => exact .update fun p => ρ.phone_track p fun t => ρ.fail_tracker t address
  | transitionTimeout id => exact .update fun p => ρ.phone_track p fun t => ρ.timeOut_tracker t id
  | switchToBaseline exclude => exact .update fun p => ρ.phone_announce _ (.switchToBaseline exclude)
  | query question ticket =>
    refine .update fun p => ?_
    rw [ρ.phone_answer, ρ.answer_reply]

theorem handle_renamed (message : Message) :
    (handle message).Renamed ρ id (handle (ρ.message message)) := by
  refine .bind (.update fun p => ρ.phone_record p (.handled message)) fun _ => .bind .read fun p =>
    .bind (act_renamed message) fun _ => ?_
  have accounted : (Job.update fun q => (q.onStateChanged p.machine.state).clearStaleDeadline).Renamed ρ id
      (Job.update fun q => (q.onStateChanged (ρ.state p.machine.state)).clearStaleDeadline) :=
    .update fun q => by rw [ρ.phone_clearStaleDeadline, ρ.phone_onStateChanged]
  cases message with
  | beginTransition => exact .update fun q => ρ.phone_clearStaleDeadline q
  | _ => exact accounted

end Phone
end CallAudio

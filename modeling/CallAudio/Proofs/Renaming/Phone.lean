import CallAudio.Proofs.Renaming.Parts

/-! Renaming goes through the operations of the phone that take no time: a changed phone is the renamed
phone changed by the renamed arguments, and an operation that also answers gives the renamed answer. -/
namespace CallAudio.Renaming

variable (ρ : Renaming) (p : Phone)

/-! ### Messages, timers and the journal -/

theorem phone_post (message : Message) : ρ.phone (p.post message) = (ρ.phone p).post (ρ.message message) := by
  have posted : ρ.phone { p with inbox := p.inbox ++ [message] } =
      { ρ.phone p with inbox := (ρ.phone p).inbox ++ [ρ.message message] } := by
    unfold phone
    rw [List.map_append]
    rfl
  unfold Phone.post
  rw [apply_ite ρ.phone, posted]
  rfl

theorem phone_postAll (messages : List Message) :
    ρ.phone (p.postAll messages) = (ρ.phone p).postAll (messages.map ρ.message) := by
  unfold Phone.postAll
  rw [List.foldl_map]
  exact (List.foldl_hom ρ.phone fun q message => (ρ.phone_post q message).symm).symm

theorem phone_record (happening : Happening) :
    ρ.phone (p.record happening) = (ρ.phone p).record (ρ.happening happening) := by
  unfold Phone.record phone
  rw [List.map_append]
  rfl

theorem phone_tell (event : RouteEvent) : ρ.phone (p.tell event) = (ρ.phone p).tell (ρ.routeEvent event) :=
  ρ.phone_record p (.told event)

theorem phone_announce (event : TransitionEvent) :
    ρ.phone (p.announce event) = (ρ.phone p).announce (ρ.transitionEvent event) :=
  ρ.phone_record p (.announced event)

theorem phone_note (entry : HistoryEntry) : ρ.phone (p.note entry) = (ρ.phone p).note (ρ.entry entry) := by
  unfold Phone.note phone machine
  rw [EventLog.map_push]

theorem phone_answer (ticket : Ticket) (value : Answer) :
    ρ.phone (p.answer ticket value) = (ρ.phone p).answer ticket (ρ.answer value) := by
  unfold Phone.answer phone
  rw [Table.mapValues_set]

theorem phone_postAfter (delay : Duration) (message : Message) :
    ρ.phone (p.postAfter delay message) = (ρ.phone p).postAfter delay (ρ.message message) := by
  unfold Phone.postAfter phone
  rw [Timers.map_arm]

theorem phone_cancel (timer : Option Nat) : ρ.phone (p.cancel timer) = (ρ.phone p).cancel timer := by
  cases timer with
  | none => rfl
  | some id =>
    unfold Phone.cancel phone
    dsimp only
    rw [Timers.map_cancel]

theorem phone_dropRetry : ρ.phone p.dropRetry = (ρ.phone p).dropRetry :=
  congrArg (fun q : Phone => { q with machine := { q.machine with retry := none } })
    (ρ.phone_cancel p p.machine.retry)

theorem phone_dropConnectionTimer : ρ.phone p.dropConnectionTimer = (ρ.phone p).dropConnectionTimer :=
  congrArg (fun q : Phone => { q with machine := { q.machine with connectionTimer := none } })
    (ρ.phone_cancel p p.machine.connectionTimer)

theorem phone_dropDeadline : ρ.phone p.dropDeadline = (ρ.phone p).dropDeadline :=
  congrArg (fun q : Phone => { q with deadline := none }) (ρ.phone_cancel p p.deadline)

theorem phone_scheduleRetry (target : Address) (attempt : Nat) :
    ρ.phone (p.scheduleRetry target attempt) = (ρ.phone p).scheduleRetry (ρ target) attempt := by
  let armed := p.postAfter (p.config.backoff attempt) (.retryConnect target attempt)
  have alone : ρ.phone (armed.cancel p.machine.retry) = (ρ.phone armed).cancel p.machine.retry :=
    ρ.phone_cancel armed _
  rw [phone_postAfter] at alone
  exact congrArg
    (fun q : Phone => { q with machine := { q.machine with retry := some p.timers.nextId } }) alone

theorem phone_startConnectionTimer (target : Address) :
    ρ.phone (p.startConnectionTimer target) = (ρ.phone p).startConnectionTimer (ρ target) :=
  congrArg (fun q : Phone => { q with machine := { q.machine with connectionTimer := some p.timers.nextId } })
    (ρ.phone_postAfter p p.config.connectionTimeout (.connectionTimeout target))

theorem phone_startDeadline (id : TransitionId) :
    ρ.phone (p.startDeadline id) = (ρ.phone p).startDeadline id := by
  let armed := p.postAfter p.config.transitionTimeout (.transitionTimeout id)
  have alone : ρ.phone (armed.cancel p.deadline) = (ρ.phone armed).cancel p.deadline :=
    ρ.phone_cancel armed _
  rw [phone_postAfter] at alone
  exact congrArg (fun q : Phone => { q with deadline := some p.timers.nextId }) alone

/-! ### The registry and the communication device -/

theorem knows_membership : ρ.Knows p.membership (ρ.phone p).membership where
  pairOf _ := Table.get?_mapKeys ρ.injective _ _
  groupOf _ := Table.get?_mapKeys ρ.injective _ _

theorem addDevice_phone (device : Device) (profile : Profile) :
    (ρ.phone p).addDevice (ρ.device device) profile = (p.addDevice device profile).map id ρ.phone :=
  congrArg (fun answered => (answered.1, { ρ.phone p with registry := answered.2 }))
    (ρ.connect_registry (ρ.knows_membership p) p.registry device profile)

theorem removeDevice_phone (address : Address) (profile : Profile) :
    (ρ.phone p).removeDevice (ρ address) profile = (p.removeDevice address profile).map id ρ.phone :=
  congrArg (fun answered => (answered.1, { ρ.phone p with registry := answered.2 }))
    (ρ.disconnect_registry p.registry address profile)

theorem setActiveDevice_phone (profile : Profile) (address : Option Address) :
    (ρ.phone p).setActiveDevice profile (address.map ρ) =
      (p.setActiveDevice profile address).map id ρ.phone :=
  congrArg (fun answered => (answered.1, { ρ.phone p with registry := answered.2 }))
    (ρ.setActive_registry p.registry profile address)

theorem detach_phone (profile : Profile) :
    (ρ.phone p).detach profile = (p.detach profile).map (List.map ρ) ρ.phone :=
  congrArg (fun answered => (answered.1, { ρ.phone p with registry := answered.2 }))
    (ρ.detach_registry p.registry profile)

theorem choose_audio (x : AudioService) (device : CommunicationDevice) :
    (ρ.audio x).choose (ρ.communicationDevice device) = (x.choose device).map id ρ.audio := by
  unfold AudioService.choose audio
  simp only [apply_ite (Prod.map id _), Prod.map_apply, List.map_append]
  rfl

theorem chooseCommunicationDevice_phone (device : CommunicationDevice) :
    (ρ.phone p).chooseCommunicationDevice (ρ.communicationDevice device) =
      (p.chooseCommunicationDevice device).map id ρ.phone :=
  congrArg (fun answered => (answered.1,
      { ρ.phone p with platform := { ρ.platform p.platform with audio := answered.2 } }))
    (ρ.choose_audio p.platform.audio device)

theorem phone_clearCommunicationDevice :
    ρ.phone p.clearCommunicationDevice = (ρ.phone p).clearCommunicationDevice := rfl

theorem communication_eq_some {c : Option (Address × EndpointKind)} {a : Address} {kind : EndpointKind} :
    c.map ρ.communication = some (ρ a, kind) ↔ c = some (a, kind) := by
  have injective : Function.Injective ρ.communication := fun x y h =>
    Prod.ext (ρ.injective (congrArg Prod.fst h)) (Prod.ext_iff.mp h).2
  exact (Option.map_injective injective).eq_iff (b := some (a, kind))

theorem makeCommunicationDevice_phone (address : Address) :
    (ρ.phone p).makeCommunicationDevice (ρ address) =
      (p.makeCommunicationDevice address).map id ρ.phone := by
  have profileOf : (ρ.phone p).registry.profileOf (ρ address) = p.registry.profileOf address :=
    ρ.profileOf_registry p.registry address
  unfold Phone.makeCommunicationDevice
  rw [profileOf]
  cases p.registry.profileOf address with
  | none => rfl
  | some profile =>
    have chosen : ((ρ.phone p).registry.communication = some (ρ address, .ofProfile profile)) =
        (p.registry.communication = some (address, .ofProfile profile)) :=
      propext ρ.communication_eq_some
    have offered : (ρ.phone p).platform.audio.available.find?
          (fun d => d.kind = .ofProfile profile && d.address = some (ρ address)) =
        (p.platform.audio.available.find? fun d => d.kind = .ofProfile profile && d.address = some address).map
          ρ.communicationDevice := by
      have same (d : CommunicationDevice) : decide ((ρ.communicationDevice d).address = some (ρ address)) =
          decide (d.address = some address) := decide_eq_decide.mpr ρ.option_eq_some
      change (p.platform.audio.available.map ρ.communicationDevice).find? _ = _
      rw [List.find?_map]
      simp only [Function.comp_def, same]
      rfl
    dsimp only
    rw [offered]
    simp only [chosen]
    split
    · rfl
    · cases p.platform.audio.available.find? _ with
      | none => rfl
      | some device =>
        dsimp only [Option.map_some]
        rw [chooseCommunicationDevice_phone, apply_ite (Prod.map id ρ.phone)]
        rfl

theorem phone_departed (target : RouteState) :
    ρ.phone (p.departed target) = (ρ.phone p).departed (ρ.state target) := by
  unfold Phone.departed
  rw [phone_note, phone_dropConnectionTimer, phone_dropRetry]
  rfl

theorem phone_use (address : Address) : ρ.phone { p with machine := p.machine.use address } =
    { ρ.phone p with machine := (ρ.phone p).machine.use (ρ address) } :=
  congrArg (fun machine => { ρ.phone p with machine }) (ρ.machine_use p.machine address)

theorem phone_unuse (address : Address) : ρ.phone { p with machine := p.machine.unuse address } =
    { ρ.phone p with machine := (ρ.phone p).machine.unuse (ρ address) } :=
  congrArg (fun machine => { ρ.phone p with machine }) (ρ.machine_unuse p.machine address)

theorem phone_arrived (address : Address) : ρ.phone (p.arrived address) = (ρ.phone p).arrived (ρ address) := by
  let q := p.departed (.connected address)
  have departed : ρ.phone q = (ρ.phone p).departed (.connected (ρ address)) := ρ.phone_departed p _
  calc ρ.phone (p.arrived address)
    _ = (ρ.phone { q with machine := q.machine.use address }).tell (.audioConnected (ρ address)) :=
      ρ.phone_tell _ _
    _ = (ρ.phone p).arrived (ρ address) := by
      rw [phone_use, departed]
      rfl

theorem phone_claim (address : Address) : ρ.phone (p.claim address) = (ρ.phone p).claim (ρ address) := by
  unfold Phone.claim
  rw [makeCommunicationDevice_phone, apply_ite ρ.phone, phone_post]
  rfl

theorem phone_moveTo (target : RouteState) :
    ρ.phone (p.moveTo target) = (ρ.phone p).moveTo (ρ.state target) := by
  -- two states stay different under new addresses, so that the renamed machine moves when this one does
  by_cases h : target = p.machine.state
  · rw [Phone.moveTo_same p h, Phone.moveTo_same _ (congrArg ρ.state h)]
  · have h' : ρ.state target ≠ (ρ.phone p).machine.state := fun same => h (ρ.state_inj.mp same)
    rw [Phone.moveTo_eq p h, Phone.moveTo_eq _ h']
    cases target with
    | audioOff => exact (ρ.phone_tell _ _).trans (by rw [phone_departed]; rfl)
    | connecting address => exact (ρ.phone_startConnectionTimer _ _).trans (by rw [phone_departed]; rfl)
    | connected address => exact (ρ.phone_claim _ _).trans (by rw [phone_arrived]; rfl)

theorem connectSco_phone : (ρ.phone p).connectSco = p.connectSco.map id ρ.phone := rfl

theorem activate_phone (address : Address) (use : ActiveUse) :
    (ρ.phone p).activate (ρ address) use = (p.activate address use).map id ρ.phone := by
  have activated : (ρ.adapter p.platform.adapter).activate (ρ address) use =
      (p.platform.adapter.activate address use).map id ρ.adapter := by
    unfold Adapter.activate adapter
    rw [contains_map]
    simp only [Prod.map_apply, List.map_append]
    rfl
  exact congrArg (fun answered => (answered.1,
    { ρ.phone p with platform := { ρ.platform p.platform with adapter := answered.2 } })) activated

theorem phone_releaseCommunicationDevice :
    ρ.phone p.releaseCommunicationDevice = (ρ.phone p).releaseCommunicationDevice := by
  have chosen : (ρ.phone p).registry.communication = p.registry.communication.map ρ.communication := rfl
  unfold Phone.releaseCommunicationDevice
  rw [chosen]
  cases p.registry.communication with
  | none => rfl
  | some c =>
    dsimp only [Option.map_some]
    rw [apply_ite ρ.phone, phone_post]
    rfl

theorem communicationCarrier_phone :
    (ρ.phone p).communicationCarrier = p.communicationCarrier.map ρ := by
  unfold Phone.communicationCarrier
  change (p.platform.audio.current.map ρ.communicationDevice >>= _) = _
  cases p.platform.audio.current with
  | none => rfl
  | some device =>
    obtain ⟨id, kind, address⟩ := device
    cases address with
    | none => rfl
    | some address =>
      have active (profile : Profile) :
          decide ((ρ.registry p.registry).active.get profile = some (ρ address)) =
            decide (p.registry.active.get profile = some address) :=
        decide_eq_decide.mpr (ρ.active_registry p.registry)
      have carried (profile : Profile) :
          (if profile = .classicHeadset then none
          else if (ρ.registry p.registry).active.get profile = some (ρ address) &&
              (ρ.registry p.registry).holds profile (ρ address) then some (ρ address)
          else none) =
          (if profile = .classicHeadset then none
          else if p.registry.active.get profile = some address && p.registry.holds profile address then
            some address
          else none).map ρ := by
        rw [active, holds_registry]
        split_ifs <;> rfl
      cases kind with
      | bluetoothSco => rfl
      | hearingAid => exact carried .hearingAid
      | bleHeadset => exact carried .leAudio
      | earpiece | speaker | wiredHeadset | dock => rfl

/-! ### The state machine -/

theorem phone_onDeviceAdded (device : Device) (profile : Profile) :
    ρ.phone (p.onDeviceAdded device profile) = (ρ.phone p).onDeviceAdded (ρ.device device) profile := by
  unfold Phone.onDeviceAdded
  rw [addDevice_phone]
  rcases p.addDevice device profile with ⟨answer, added⟩
  match answer with
  | .ok true => exact ρ.phone_tell added .deviceListChanged
  | .ok false | .error _ => rfl

theorem phone_onActiveDeviceChanged (profile : Profile) (address : Option Address) :
    ρ.phone (p.onActiveDeviceChanged profile address) =
      (ρ.phone p).onActiveDeviceChanged profile (address.map ρ) := by
  unfold Phone.onActiveDeviceChanged
  rw [setActiveDevice_phone]
  rcases p.setActiveDevice profile address with ⟨presence, changed⟩
  match presence with
  | (false, true) => exact ρ.phone_tell changed .activeDevicePresent
  | (true, false) => exact ρ.phone_tell changed .activeDeviceGone
  | (false, false) | (true, true) => rfl

theorem phone_onRejected (target : Address) (attempt : Nat) (failure : ConnectFailure) :
    ρ.phone (p.onRejected target attempt failure) =
      (ρ.phone p).onRejected (ρ target) attempt failure := by
  unfold Phone.onRejected
  dsimp only
  rw [apply_ite ρ.phone, phone_scheduleRetry, phone_post, phone_dropRetry, phone_note]
  rfl

theorem live_phone (address : Address) :
    (ρ.phone p).machine.state.liveAddress = some (ρ address) ↔
      p.machine.state.liveAddress = some address := by
  change (ρ.state p.machine.state).liveAddress = _ ↔ _
  rw [liveAddress_state]
  exact ρ.option_eq_some

theorem isConnected_phone (address : Address) :
    (ρ.phone p).registry.isConnected (ρ address) = true ↔ p.registry.isConnected address = true :=
  iff_of_eq (congrArg (· = true) (ρ.isConnected_registry p.registry address))

theorem phone_onAudioOn (address : Address) :
    ρ.phone (p.onAudioOn address) = (ρ.phone p).onAudioOn (ρ address) := by
  have trusted : ((ρ.phone p).machine.state.liveAddress = some (ρ address) ∨
      (ρ.phone p).registry.isConnected (ρ address) = true) =
      (p.machine.state.liveAddress = some address ∨ p.registry.isConnected address = true) :=
    propext (or_congr (ρ.live_phone p address) (ρ.isConnected_phone p address))
  unfold Phone.onAudioOn
  rw [apply_ite ρ.phone, phone_moveTo]
  simp only [trusted]
  rfl

/-! ### The coordinator -/

theorem phone_report (outcome : Option TransitionOutcome) :
    ρ.phone (p.report outcome) = (ρ.phone p).report (outcome.map ρ.transitionOutcome) := by
  match outcome with
  | some (.resolved _ destination) => exact ρ.phone_announce p (.routeActive destination)
  | some (.fallBackToBaseline exclude) => exact ρ.phone_announce p (.switchToBaseline exclude)
  | none => rfl

theorem phone_track {f g : TransitionTracker → Option TransitionOutcome × TransitionTracker}
    (h : ∀ t, g (ρ.tracker t) = (f t).map (Option.map ρ.transitionOutcome) ρ.tracker) :
    ρ.phone (p.track f) = (ρ.phone p).track g := by
  have renamed : g (ρ.phone p).tracker = (f p.tracker).map (Option.map ρ.transitionOutcome) ρ.tracker :=
    h p.tracker
  unfold Phone.track
  rw [renamed]
  exact ρ.phone_report _ _

theorem phone_confirm (signal : Signal) (address : Address) :
    ρ.phone (p.confirm signal address) = (ρ.phone p).confirm signal (ρ address) := by
  have renamed : (ρ.phone p).tracker.pending = p.tracker.pending.map ρ.pending := rfl
  unfold Phone.confirm
  rw [renamed]
  cases p.tracker.pending with
  | none => rfl
  | some pending => exact ρ.phone_track p fun t => ρ.confirm_tracker t ⟨some pending.id, signal, some address⟩

theorem phone_onConnectOutcome (outcome : ConnectOutcome) :
    ρ.phone (p.onConnectOutcome outcome) = (ρ.phone p).onConnectOutcome (ρ.outcome outcome) := by
  cases outcome with
  | reaffirmed address =>
    let confirmed := p.confirm .bluetoothAudioConnected address
    have confirmed' : ρ.phone confirmed = (ρ.phone p).confirm .bluetoothAudioConnected (ρ address) :=
      ρ.phone_confirm p _ address
    have chosen : ((ρ.phone confirmed).registry.communication.any fun c => c.1 = ρ address) =
        confirmed.registry.communication.any fun c => c.1 = address := by
      change (confirmed.registry.communication.map ρ.communication).any _ = _
      rw [Option.any_map]
      simp only [communication, apply_inj]
    change ρ.phone (if confirmed.registry.communication.any _ then _ else confirmed) = _
    rw [apply_ite ρ.phone, phone_confirm, ← chosen, confirmed']
    rfl
  | alreadyConnecting | started | rejected | noDevice => rfl

theorem phone_confirmLeft (before : RouteState) :
    ρ.phone (p.confirmLeft before) = (ρ.phone p).confirmLeft (ρ.state before) := by
  cases before with
  | connected address => exact ρ.phone_confirm p .bluetoothAudioDisconnected address
  | audioOff | connecting => rfl

theorem phone_confirmEntered (after : RouteState) :
    ρ.phone (p.confirmEntered after) = (ρ.phone p).confirmEntered (ρ.state after) := by
  cases after with
  | connected address => exact ρ.phone_confirm p .bluetoothAudioConnected address
  | audioOff | connecting => rfl

theorem phone_failAttempted (before after : RouteState) :
    ρ.phone (p.failAttempted before after) =
      (ρ.phone p).failAttempted (ρ.state before) (ρ.state after) := by
  cases before with
  | connecting attempted =>
    have elsewhere : (ρ.state after ≠ .connected (ρ attempted)) = (after ≠ .connected attempted) :=
      propext (not_congr ρ.state_eq_connected)
    have awaited := ρ.isAwaiting_tracker p.tracker ⟨.bluetoothAudioConnected, some attempted⟩
    have failed : ρ.phone (p.track fun t => t.fail (some attempted)) =
        (ρ.phone p).track fun t => t.fail (some (ρ attempted)) :=
      ρ.phone_track p fun t => ρ.fail_tracker t (some attempted)
    unfold Phone.failAttempted
    change ρ.phone (if after ≠ .connected attempted ∧ _ then _ else p) =
      if ρ.state after ≠ .connected (ρ attempted) ∧ (ρ.tracker p.tracker).isAwaiting _ then _ else _
    rw [apply_ite ρ.phone, failed, ← awaited]
    simp only [elsewhere]
    rfl
  | audioOff | connected => rfl

theorem phone_onStateChanged (before : RouteState) :
    ρ.phone (p.onStateChanged before) = (ρ.phone p).onStateChanged (ρ.state before) := by
  have same : (ρ.state before = (ρ.phone p).machine.state) = (before = p.machine.state) :=
    propext ρ.state_inj
  unfold Phone.onStateChanged
  dsimp only
  rw [apply_ite ρ.phone, phone_failAttempted, phone_confirmEntered, phone_confirmLeft]
  simp only [same]
  rfl

theorem phone_clearStaleDeadline : ρ.phone p.clearStaleDeadline = (ρ.phone p).clearStaleDeadline := by
  have none : (ρ.phone p).tracker.pending.isNone = p.tracker.pending.isNone := Option.isNone_map
  unfold Phone.clearStaleDeadline
  rw [apply_ite ρ.phone, phone_dropDeadline, none]

theorem phone_setCommunicationKind (kind : EndpointKind) :
    ρ.phone (p.setCommunicationKind kind) = (ρ.phone p).setCommunicationKind kind := by
  let conclude (answered : Bool × Phone) : Phone :=
    if answered.1 then answered.2 else answered.2.track fun t => t.fail none
  have concluded (answered : Bool × Phone) :
      ρ.phone (conclude answered) = conclude (answered.map id ρ.phone) := by
    have failed : ρ.phone (answered.2.track fun t => t.fail none) =
        (ρ.phone answered.2).track fun t => t.fail none :=
      ρ.phone_track answered.2 fun t => ρ.fail_tracker t none
    exact (apply_ite ρ.phone _ _ _).trans (congrArg _ failed)
  have found : (ρ.phone p).platform.audio.available.find? (fun d => d.kind = kind) =
      (p.platform.audio.available.find? fun d => d.kind = kind).map ρ.communicationDevice := List.find?_map
  unfold Phone.setCommunicationKind
  rw [found]
  cases p.platform.audio.available.find? fun d => d.kind = kind with
  | none => exact concluded (false, p)
  | some device =>
    have chosen := ρ.chooseCommunicationDevice_phone p device
    exact (concluded (p.chooseCommunicationDevice device)).trans (congrArg conclude chosen.symm)

/-! ### Dumps and answers -/

theorem dump_phone : (ρ.phone p).dump = p.dump := by
  have recent : Text.listed Address.redacted (ρ.phone p).machine.recent =
      Text.listed Address.redacted p.machine.recent := listed_map ρ _ ρ.redacted_apply _
  have history : (ρ.phone p).machine.history.entries.map HistoryEntry.text =
      p.machine.history.entries.map HistoryEntry.text := by
    change (p.machine.history.entries.map ρ.entry).map _ = _
    rw [List.map_map]
    exact List.map_congr_left fun e _ => ρ.text_entry e
  have state : (ρ.phone p).machine.state.text = p.machine.state.text := ρ.text_state p.machine.state
  have registry : (ρ.phone p).registry.dump = p.registry.dump := ρ.dump_registry p.registry
  have renamed : (ρ.phone p).tracker.pending = p.tracker.pending.map ρ.pending := rfl
  unfold Phone.dump
  rw [recent, history, state, registry, renamed]
  cases p.tracker.pending with
  | none => rfl
  | some t =>
    have awaited : Text.listed ConfirmationToken.description (t.outstanding.map ρ.token) =
        Text.listed ConfirmationToken.description t.outstanding := listed_map ρ.token _ ρ.description_token _
    dsimp only [Option.map_some, pending]
    rw [text_route, text_route, awaited]

/-- Only the answer to a question about the state names an address. -/
theorem answer_reply (question : Query) : ρ.answer (p.reply question) = (ρ.phone p).reply question := by
  cases question with
  | connectedOrPending => exact congrArg Answer.flag (ρ.isLive_state p.machine.state).symm
  | state | sync => rfl
  | dump => exact congrArg Answer.lines (ρ.dump_phone p).symm

end CallAudio.Renaming

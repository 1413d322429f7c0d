import CallAudio.Proofs.Automaton
import CallAudio.Proofs.Devices
import Mathlib.Data.List.Induction

/-! Whether the live device is connected. Audio falls back to the active headset without a look at
whether that is connected; in no other way a device becomes live, or stays so, that is not. -/
namespace CallAudio

/-- The device that a cue may make live. -/
def Cue.device? : Cue → Option Address
  | .nothing => none
  | .audioOn address => some address
  | .fallBack carrier => carrier
  | .connect target _ => target

theorem RouteState.after_liveAddress {s : RouteState} {cue : Cue} {address : Address}
    (h : (s.after cue).liveAddress = some address) :
    (s.liveAddress = some address ∧ ∀ carrier, cue ≠ .fallBack carrier) ∨
      cue.device? = some address := by
  cases cue with
  | nothing => exact Or.inl ⟨h, nofun⟩
  | audioOn => exact Or.inr h
  | fallBack carrier =>
    cases carrier with
    | none => cases h
    | some => exact Or.inr h
  | connect target accepted =>
    rcases s.after_connect_cases target accepted with same | ⟨asked, rfl, -, after⟩
    · rw [same] at h
      exact Or.inl ⟨h, nofun⟩
    · rw [after] at h
      exact Or.inr h

theorem Cue.of_ite {condition : Prop} [Decidable condition] {cue : Cue} {address : Address}
    (h : (if condition then cue else .nothing).device? = some address) :
    condition ∧ cue.device? = some address := by
  split at h
  · exact ⟨‹_›, h⟩
  · cases h

theorem Registry.active_disconnect {r : Registry} {address active : Address} {profile : Profile}
    (profile' : Profile)
    (h : (r.disconnect address profile).2.active.get profile' = some active) :
    r.active.get profile' = some active := by
  obtain ⟨_, _, _, _, _, same, was, -⟩ := r.disconnect_eq address profile
  rw [same] at h
  exact was profile' active h

namespace Phone

variable {p : Phone} {message : Message} {pauses : Pauses} {address : Address}

/-- The live device, if there is one, is connected over a profile. -/
def LiveConnected (p : Phone) : Prop :=
  ∀ address, p.machine.state.liveAddress = some address → p.registry.isConnected address

/-- Handling the next message makes audio fall back to the headset that is active, which is not
connected. -/
def Adopts (p : Phone) (turn : Turn) : Prop :=
  ∃ message rest pauses address, turn = .handle pauses ∧ p.inbox = message :: rest ∧
    ({ p with inbox := rest } : Phone).cue pauses message = .fallBack (some address) ∧
    p.registry.active.classicHeadset = some address ∧
    ¬(p.turn turn).registry.isConnected address

/-- The communication device counts as carrying audio only while it is connected. -/
theorem communicationCarrier_connected (h : p.communicationCarrier = some address) :
    p.registry.isConnected address := by
  unfold communicationCarrier at h
  obtain ⟨device, -, h⟩ := Option.bind_eq_some_iff.mp h
  obtain ⟨a, -, h⟩ := Option.bind_eq_some_iff.mp h
  obtain ⟨profile, -, h⟩ := Option.bind_eq_some_iff.mp h
  split at h
  · cases h
  split at h
  · rename_i held
    obtain rfl := Option.some.inj h
    exact Registry.isConnected_iff.mpr ⟨profile, (Bool.and_eq_true_iff.mp held).2⟩
  · cases h

/-- What carries audio is the active headset, or else it is connected. -/
theorem carryingAudio_connected (hp : pauses.Only Outside.SparesDevices)
    (h : ((carryingAudio p).finish pauses).value = some address) :
    p.registry.active.classicHeadset = some address ∨ p.registry.isConnected address := by
  unfold carryingAudio at h
  rw [Job.finish_read_bind] at h
  cases active : p.registry.active.classicHeadset with
  | none =>
    rw [active] at h
    exact Or.inr (communicationCarrier_connected h)
  | some headset =>
    have chosen (attached : Bool) (q : Phone) (hq : q.registry.devices = p.registry.devices)
        (h : (if attached && q.platform.headset.state headset = .connected then some headset
          else q.communicationCarrier) = some address) :
        some headset = some address ∨ p.registry.isConnected address := by
      split at h
      · exact Or.inl h
      · refine Or.inr (Registry.isConnected_of_holds (fun profile held => ?_)
          (communicationCarrier_connected h))
        rwa [← Registry.holds_of_devices hq]
    rw [active] at h
    dsimp only at h
    rw [Job.finish_bind] at h
    rcases Job.finish_awaitHeadset p pauses with waited | waited
    · rw [waited] at h
      exact chosen true p rfl h
    · rw [waited] at h
      exact chosen _ _ (outsides_devices (hp 0)) h

theorem fallBackCue_connected (hp : pauses.Only Outside.SparesDevices)
    (h : (p.fallBackCue pauses).device? = some address) : p.registry.isConnected address ∨
      p.fallBackCue pauses = .fallBack (some address) ∧
        p.registry.active.classicHeadset = some address := by
  have carrier : ((carryingAudio p).finish pauses).value = some address := h
  rcases carryingAudio_connected hp carrier with active | connected
  · exact Or.inr ⟨congrArg Cue.fallBack carrier, active⟩
  · exact Or.inl connected

theorem connectCue_connected {requested : Option Address}
    (h : (p.connectCue requested pauses).device? = some address) : p.registry.isConnected address := by
  unfold connectCue at h
  split at h
  · cases h
  · rename_i target found
    obtain rfl := Option.some.inj h
    exact Registry.connectTarget_isConnected found

/-- The phone without the device that a message takes away. -/
def without (message : Message) (p : Phone) : Phone :=
  match message with
  | .deviceLost address profile => (p.removeDevice address profile).2
  | _ => p

theorem holds_of_without {profile : Profile} (h : (p.without message).registry.holds profile address) :
    message ≠ .deviceLost address profile ∧ p.registry.holds profile address := by
  cases message with
  | deviceLost address' profile' =>
    obtain ⟨held, other⟩ := Registry.holds_disconnect.mp h
    refine ⟨fun he => other ?_, held⟩
    obtain ⟨ha, hp⟩ := Message.deviceLost.inj he
    exact ⟨hp.symm, ha.symm⟩
  | _ => exact ⟨nofun, h⟩

/-- The device that a message may make live is connected, unless audio falls back to the active
headset. -/
theorem cue_connected (live : p.LiveConnected) (hp : pauses.Only Outside.SparesDevices)
    (h : (p.cue pauses message).device? = some address) :
    (p.without message).registry.isConnected address ∨
      p.cue pauses message = .fallBack (some address) ∧
        p.registry.active.classicHeadset = some address := by
  cases message with
  | audioOn on =>
    obtain ⟨known, h⟩ := Cue.of_ite h
    obtain rfl := Option.some.inj h
    exact Or.inl (known.elim (live on) id)
  | audioLost lost =>
    cases lost with
    | none => exact fallBackCue_connected hp h
    | some lost =>
      obtain ⟨hl, h⟩ := Cue.of_ite h
      have cue : p.cue pauses (.audioLost (some lost)) = p.fallBackCue pauses := if_pos hl
      rw [cue]
      exact fallBackCue_connected hp h
  | connectionTimeout late =>
    obtain ⟨hl, h⟩ := Cue.of_ite h
    have cue : p.cue pauses (.connectionTimeout late) = p.fallBackCue pauses := if_pos hl
    rw [cue]
    exact fallBackCue_connected hp h
  | deviceLost lost profile =>
    let q := (p.removeDevice lost profile).2
    obtain ⟨hl, h⟩ := Cue.of_ite h
    have cue : p.cue pauses (.deviceLost lost profile) = q.fallBackCue pauses := if_pos hl
    rw [cue]
    refine (fallBackCue_connected hp h).imp_right fun ⟨cue, active⟩ => ⟨cue, ?_⟩
    exact Registry.active_disconnect .classicHeadset active
  | connect requested => exact Or.inl (connectCue_connected h)
  | retryConnect again attempt => exact Or.inl (connectCue_connected (Cue.of_ite h).2)
  | beginTransition origin destination destinationActive ticket =>
    exact Or.inl (connectCue_connected (Cue.of_ite h).2)
  | _ => cases h

/-- The device that is live stays connected, or else audio falls back to what carries it. -/
theorem LiveConnected.without (live : p.LiveConnected)
    (hl : p.machine.state.liveAddress = some address)
    (stays : ∀ carrier, p.cue pauses message ≠ .fallBack carrier) :
    (p.without message).registry.isConnected address := by
  have connected : p.registry.isConnected address := live address hl
  cases message with
  | deviceLost lost profile =>
    let q := (p.removeDevice lost profile).2
    change q.registry.isConnected address
    obtain ⟨profile', held⟩ := Registry.isConnected_iff.mp connected
    by_cases gone : profile' = profile ∧ address = lost
    · obtain ⟨rfl, rfl⟩ := gone
      by_contra left
      have removed : (p.removeDevice address profile').1 = true := by
        change (p.registry.disconnect address profile').1 = true
        unfold Registry.disconnect
        rw [if_pos held]
      have falls : p.cue pauses (.deviceLost address profile') = q.fallBackCue pauses :=
        if_pos ⟨removed, hl, left⟩
      exact stays _ falls
    · exact Registry.isConnected_iff.mpr ⟨profile', Registry.holds_disconnect.mpr ⟨held, gone⟩⟩
  | _ => exact connected

theorem LiveConnected.handled (live : p.LiveConnected) (hp : pauses.Only Outside.SparesDevices)
    (h : (p.handled message pauses).machine.state.liveAddress = some address) :
    (p.handled message pauses).registry.isConnected address ∨
      p.cue pauses message = .fallBack (some address) ∧
        p.registry.active.classicHeadset = some address := by
  have state : (p.handled message pauses).machine.state =
      p.machine.state.after (p.cue pauses message) := (p.handled_obeys pauses message).state
  rw [state] at h
  have named : (p.without message).registry.isConnected address ∨
      p.cue pauses message = .fallBack (some address) ∧
        p.registry.active.classicHeadset = some address := by
    rcases RouteState.after_liveAddress h with ⟨hl, stays⟩ | device
    · exact Or.inl (live.without hl stays)
    · exact cue_connected live hp device
  -- Whatever is connected once the message has taken its device away stays so until its end.
  refine named.imp_left fun connected => ?_
  obtain ⟨profile, held⟩ := Registry.isConnected_iff.mp connected
  obtain ⟨other, held⟩ := holds_of_without held
  exact Registry.isConnected_iff.mpr ⟨profile, course_holds (p.handled_course message hp) other held⟩

/-- A turn keeps the live device connected unless it adopts one that is not. -/
theorem LiveConnected.turn (live : p.LiveConnected) {turn : Turn} (ht : turn.Only Outside.SparesDevices)
    (h : ¬p.Adopts turn) : (p.turn turn).LiveConnected := by
  intro address hl
  cases turn with
  | outside o =>
    have machine : (p.outside o).machine = p.machine := (p.outside_undisturbed o).machine
    have connected : p.registry.isConnected address := by
      apply live
      rw [← machine]
      exact hl
    refine Registry.isConnected_of_holds (fun profile held => ?_) connected
    exact (Registry.holds_of_devices (outside_devices ht)).trans held
  | handle pauses =>
    cases hi : p.inbox with
    | nil =>
      rw [turn_handle_nil hi] at hl ⊢
      exact live address hl
    | cons message rest =>
      let q : Phone := { p with inbox := rest }
      have next : p.turn (.handle pauses) = q.handled message pauses := turn_handle hi pauses
      have live' : q.LiveConnected := live
      by_contra left
      rw [next] at hl
      rcases live'.handled ht hl with connected | ⟨cue, active⟩
      · exact left (next ▸ connected)
      · exact h ⟨message, rest, pauses, address, rfl, hi, cue, active, left⟩

theorem Adopts.not_live {turn : Turn} (h : p.Adopts turn) : ¬(p.turn turn).LiveConnected := by
  obtain ⟨message, rest, pauses, address, rfl, hi, cue, -, left⟩ := h
  let q : Phone := { p with inbox := rest }
  have next : p.turn (.handle pauses) = q.handled message pauses := turn_handle hi pauses
  have state : (q.handled message pauses).machine.state =
      q.machine.state.after (q.cue pauses message) := (q.handled_obeys pauses message).state
  rw [cue] at state
  intro live
  refine left (live address ?_)
  rw [next, state]
  rfl

end Phone

/-- As long as devices come and go by messages only, the live device is connected after every turn of
a run exactly if no turn of it adopts an active headset that is not connected. -/
theorem live_device_connected_iff (config : RouteConfig) (attached : List Profile)
    (turns : List Turn) (only : ∀ turn ∈ turns, turn.Only Outside.SparesDevices) :
    let after (past : List Turn) : Phone := (Phone.start config attached).turns past
    (∀ past, past <+: turns → (after past).LiveConnected) ↔
      ∀ past turn, past ++ [turn] <+: turns → ¬(after past).Adopts turn := by
  intro after
  have step (past : List Turn) (turn : Turn) : after (past ++ [turn]) = (after past).turn turn :=
    Phone.turns_concat _ past turn
  refine ⟨fun h past turn way adopts => ?_, fun h past => ?_⟩
  · exact adopts.not_live (step past turn ▸ h _ way)
  · induction past using List.reverseRecOn with
    | nil => exact fun _ _ hl => nomatch hl
    | append_singleton past turn ih =>
      intro way
      have live : (after past).LiveConnected := ih ((List.prefix_append past [turn]).trans way)
      have allowed : turn.Only Outside.SparesDevices :=
        only turn (way.subset (List.mem_append_right past List.mem_cons_self))
      rw [step]
      exact live.turn allowed (h past turn way)

/-- A connect to a headset that was added. -/
theorem live_device_connected_iff_on_connect :
    let headset : Address := ⟨10, 0, 0, 0, 0, 1⟩
    let pauses : Pauses := fun _ => ⟨true, []⟩
    let turns : List Turn := [.outside (.post (.deviceAdded ⟨headset, .audioSink⟩ .classicHeadset)),
      .handle pauses, .outside (.post (.connect none)), .handle pauses]
    let after (past : List Turn) : Phone := (Phone.start {} [.classicHeadset]).turns past
    (∀ turn ∈ turns, turn.Only Outside.SparesDevices) ∧
      (after turns).machine.state = .connecting headset ∧
      (after turns).registry.isConnected headset = true ∧
      ((∀ past, past <+: turns → (after past).LiveConnected) ↔
        ∀ past turn, past ++ [turn] <+: turns → ¬(after past).Adopts turn) := by
  intro headset pauses turns after
  have quiet : pauses.Only Outside.SparesDevices := fun _ => List.forall_mem_nil _
  have only : ∀ turn ∈ turns, turn.Only Outside.SparesDevices := by
    intro turn mem
    simp only [turns, List.mem_cons, List.not_mem_nil, or_false] at mem
    rcases mem with rfl | rfl | rfl | rfl
    · trivial
    · exact quiet
    · trivial
    · exact quiet
  have state : (after turns).machine.state = .connecting headset := by decide
  have connected : (after turns).registry.isConnected headset = true := by decide
  exact ⟨only, state, connected, live_device_connected_iff {} [.classicHeadset] turns only⟩

/-- A headset that was lost is reported active after that and has an audio link, so it becomes the live
device when audio is lost. -/
theorem lost_device_live_again :
    let headset : Address := ⟨10, 0, 0, 0, 0, 1⟩
    let moves : List ThreadMove := [.start,
      .outside (.post (.deviceAdded ⟨headset, .audioSink⟩ .classicHeadset)), .handle,
      .outside (.post (.deviceLost headset .classicHeadset)), .handle,
      .outside (.post (.activeDeviceChanged .classicHeadset (some headset))), .handle,
      .outside (.platform { headset := { states := [(headset, .connected)] } }),
      .outside (.post (.audioLost none)), .handle]
    let t := (Thread.fresh {} [.classicHeadset]).run moves
    (∀ m ∈ moves, m.Only Outside.SparesDevices) ∧ t.isIdle = true ∧
      t.phone.machine.state = .connected headset ∧ t.phone.registry.isConnected headset = false := by
  intro headset moves t
  refine ⟨fun m mem => ?_, by decide, by decide, by decide⟩
  simp only [moves, List.mem_cons, List.not_mem_nil, or_false] at mem
  rcases mem with rfl | rfl | rfl | rfl | rfl | rfl | rfl | rfl | rfl | rfl <;> trivial

end CallAudio

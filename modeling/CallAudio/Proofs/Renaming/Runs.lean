import CallAudio.Proofs.Renaming.Jobs
import Mathlib.Logic.Equiv.Basic

/-! Two runs of the route thread whose inputs differ by a renaming of addresses: the second goes through the
renamed states, and all that is dumped in it reads the same. -/
namespace CallAudio

/-! ### What goes on around the thread -/

namespace Renaming

variable (ρ : Renaming) (p : Phone)

theorem messages_platformEvent (inCall : Bool) (event : PlatformEvent) :
    (ρ.platformEvent event).messages inCall = (event.messages inCall).map ρ.message := by
  cases event with
  | connectionChanged profile device state => cases state <;> rfl
  | activeDeviceChanged profile address => cases profile <;> cases address <;> cases inCall <;> rfl
  | scoChanged address state => cases state <;> rfl

theorem confirmations_communicationDevice (d : Dispatcher) (device : Option CommunicationDevice) :
    d.confirmations (device.map ρ.communicationDevice) = (d.confirmations device).map ρ.confirmation := by
  have speaker (before after : Bool) : (if after && !before then [⟨none, .speakerOn, none⟩]
      else if before && !after then [⟨none, .speakerOff, none⟩] else []).map ρ.confirmation =
      if after && !before then [⟨none, .speakerOn, none⟩]
      else if before && !after then [⟨none, .speakerOff, none⟩] else [] := by
    cases before <;> cases after <;> rfl
  unfold Dispatcher.confirmations
  rw [List.map_append, speaker]
  match device with
  | none | some ⟨_, _, none⟩ | some ⟨_, _, some _⟩ => rfl

theorem phone_onPlatformEvent (event : PlatformEvent) :
    ρ.phone (p.onPlatformEvent event) = (ρ.phone p).onPlatformEvent (ρ.platformEvent event) := by
  unfold Phone.onPlatformEvent
  rw [phone_postAll, messages_platformEvent]
  rfl

theorem phone_onEvent (event : Option PlatformEvent) :
    ρ.phone (Bench.onEvent event p).2 = (Bench.onEvent (event.map ρ.platformEvent) (ρ.phone p)).2 := by
  cases event with
  | none => rfl
  | some event => exact ρ.phone_onPlatformEvent p event

theorem phone_onCommunicationDeviceChanged (device : Option CommunicationDevice) :
    ρ.phone (p.onCommunicationDeviceChanged device) =
      (ρ.phone p).onCommunicationDeviceChanged (device.map ρ.communicationDevice) := by
  have kind : (device.map ρ.communicationDevice).map CommunicationDevice.kind =
      device.map CommunicationDevice.kind := Option.map_map ..
  have posted : ((p.dispatcher.confirmations device).map Message.confirmation).map ρ.message =
      (p.dispatcher.confirmations (device.map ρ.communicationDevice)).map Message.confirmation := by
    rw [confirmations_communicationDevice, List.map_map, List.map_map]
    rfl
  unfold Phone.onCommunicationDeviceChanged
  dsimp only
  rw [phone_postAll, posted, kind]
  rfl

theorem phone_onServiceLost (profile : Profile) :
    ρ.phone (p.onServiceLost profile) = (ρ.phone p).onServiceLost profile := by
  have lost (addresses : List Address) :
      (addresses.map fun a => Message.deviceLost a profile).map ρ.message =
        (addresses.map ρ).map fun a => Message.deviceLost a profile := by
    rw [List.map_map, List.map_map]
    rfl
  unfold Phone.onServiceLost
  rw [detach_phone]
  exact (ρ.phone_postAll _ _).trans (congrArg (Phone.postAll · _) (lost _))

theorem phone_fireTimer (id : Nat) : ρ.phone (p.fireTimer id) = (ρ.phone p).fireTimer id := by
  have found : (ρ.phone p).timers.armed.find? (fun t => t.id = id) =
      (p.timers.armed.find? fun t => t.id = id).map (Timer.map ρ.message) := List.find?_map
  unfold Phone.fireTimer
  rw [found]
  cases p.timers.armed.find? fun t => t.id = id with
  | none => rfl
  | some t =>
    have cancelled := ρ.phone_cancel p (some id)
    have posted := ρ.phone_post (p.cancel (some id)) t.value
    rw [cancelled] at posted
    exact (apply_ite ρ.phone _ _ _).trans (congrArg (fun q => if t.due ≤ p.now then q else ρ.phone p) posted)

theorem phone_eventAct (act : Bench.EventAct) :
    ρ.phone (act.run p).2 = ((ρ.eventAct act).run (ρ.phone p)).2 := by
  cases act with
  | serviceAttached | setInCall => rfl
  | serviceLost profile => exact ρ.phone_onServiceLost p profile
  | event event => exact ρ.phone_onPlatformEvent p event
  | rawConnection profile device state =>
    have named : PlatformEvent.connectionOfRaw? profile (ρ.device device) state =
        (PlatformEvent.connectionOfRaw? profile device state).map ρ.platformEvent := by
      unfold PlatformEvent.connectionOfRaw?
      cases Profile.ofRaw? profile <;> cases ConnectionState.ofRaw? state <;> rfl
    exact (ρ.phone_onEvent p _).trans (by rw [← named]; rfl)
  | rawSco address state =>
    have named : PlatformEvent.scoOfRaw? (ρ address) state =
        (PlatformEvent.scoOfRaw? address state).map ρ.platformEvent := by
      unfold PlatformEvent.scoOfRaw?
      cases ScoState.ofRaw? state <;> rfl
    exact (ρ.phone_onEvent p _).trans (by rw [← named]; rfl)
  | communicationDeviceChanged device => exact ρ.phone_onCommunicationDeviceChanged p device

theorem phone_registryAct (act : Bench.RegistryAct) :
    ρ.phone (act.run p).2 = ((ρ.registryAct act).run (ρ.phone p)).2 := by
  cases act with
  | attach => rfl
  | detach profile => exact (congrArg Prod.snd (ρ.detach_phone p profile)).symm
  | connect profile device => exact (congrArg Prod.snd (ρ.addDevice_phone p device profile)).symm
  | disconnect address profile => exact (congrArg Prod.snd (ρ.removeDevice_phone p address profile)).symm
  | setActive profile address => exact (congrArg Prod.snd (ρ.setActiveDevice_phone p profile address)).symm
  | makeCommunicationDevice address =>
    exact (congrArg Prod.snd (ρ.makeCommunicationDevice_phone p address)).symm
  | activeDevice | isConnected | profileOf | connected | uniqueConnected | connectTarget | communication
  | dump => rfl

theorem phone_outside (o : Outside) : ρ.phone (p.outside o) = (ρ.phone p).outside (ρ.outside o) := by
  cases o with
  | post message => exact ρ.phone_post p message
  | event act => exact ρ.phone_eventAct p act
  | registry act => exact ρ.phone_registryAct p act
  | communication | platform | pass => rfl
  | fire timer => exact ρ.phone_fireTimer p timer

end Renaming

/-! ### Runs -/

variable {ρ : Renaming}

/-- Work that waits goes on to the renamed steps, at the same time. -/
inductive Work.Renamed (ρ : Renaming) : Work Unit → Work Unit → Prop
  | finished : Renamed ρ (.finished ()) (.finished ())
  | waiting (deadline : Nat) {resume resume' : Bool → Phone → Step Unit}
      (h : ∀ attached q, (resume attached q).Renamed ρ id (resume' attached (ρ.phone q))) :
      Renamed ρ (.waiting deadline resume) (.waiting deadline resume')

/-- Both threads are at the same point, with the same work to go on with. -/
inductive Loop.Renamed (ρ : Renaming) : Loop → Loop → Prop
  | unstarted : Renamed ρ .unstarted .unstarted
  | running {work work' : Work Unit} (h : work.Renamed ρ work') : Renamed ρ (.running work) (.running work')
  | gone : Renamed ρ .gone .gone

/-- The second thread has the renamed phone, and goes on to the renamed steps. -/
structure Thread.Renamed (ρ : Renaming) (t u : Thread) : Prop where
  phone : u.phone = ρ.phone t.phone
  loop : t.loop.Renamed ρ u.loop

theorem Work.Renamed.ofStep {s s' : Step Unit} (h : s.Renamed ρ id s') :
    (Work.ofStep s).1.Renamed ρ (Work.ofStep s').1 ∧ (Work.ofStep s').2 = ρ.phone (Work.ofStep s).2 := by
  cases h with
  | done value p => exact ⟨.finished, rfl⟩
  | wait p h => exact ⟨.waiting _ h, rfl⟩

namespace Thread.Renamed

variable {t u : Thread}

theorem fresh (config : RouteConfig) (attached : List Profile) :
    (Thread.fresh config attached).Renamed ρ (.fresh config attached) where
  phone := by
    have registry : ρ.registry (attached.foldl Registry.attach {}) = attached.foldl Registry.attach {} :=
      (List.foldl_hom ρ.registry fun r profile => (ρ.registry_attach r profile).symm).symm
    exact (congrArg (fun registry => { Phone.start config attached with registry }) registry).symm
  loop := .unstarted

theorem start (h : t.Renamed ρ u) : t.start.Renamed ρ u.start := by
  obtain ⟨p, l⟩ := t
  obtain ⟨q, l'⟩ := u
  obtain ⟨hp, hl⟩ := h
  cases hl with
  | unstarted => exact ⟨hp, .running .finished⟩
  | running hw => exact ⟨hp, .running hw⟩
  | gone => exact ⟨hp, .gone⟩

theorem stop (h : t.Renamed ρ u) : t.stop.Renamed ρ u.stop := by
  obtain ⟨p, l⟩ := t
  obtain ⟨q, l'⟩ := u
  obtain rfl : q = ρ.phone p := h.phone
  exact ⟨rfl, .gone⟩

theorem handleNext (h : t.Renamed ρ u) : (t.handleNext?.getD t).Renamed ρ (u.handleNext?.getD u) := by
  obtain ⟨p, l⟩ := t
  obtain ⟨q, l'⟩ := u
  obtain ⟨hp, hl⟩ := h
  obtain rfl : q = ρ.phone p := hp
  cases hl with
  | unstarted => exact ⟨rfl, .unstarted⟩
  | gone => exact ⟨rfl, .gone⟩
  | running hw =>
    cases hw with
    | waiting deadline hr => exact ⟨rfl, .running (.waiting deadline hr)⟩
    | finished =>
      -- either both inboxes are empty or both have a first message
      have inbox : (ρ.phone p).inbox = p.inbox.map ρ.message := rfl
      unfold Thread.handleNext?
      dsimp only
      rw [inbox]
      cases p.inbox with
      | nil => exact ⟨rfl, .running .finished⟩
      | cons message rest =>
        obtain ⟨work, phone⟩ := Work.Renamed.ofStep (Phone.handle_renamed message { p with inbox := rest })
        exact ⟨phone, .running work⟩

theorem resume (h : t.Renamed ρ u) : (t.resume?.getD t).Renamed ρ (u.resume?.getD u) := by
  obtain ⟨p, l⟩ := t
  obtain ⟨q, l'⟩ := u
  obtain ⟨hp, hl⟩ := h
  obtain rfl : q = ρ.phone p := hp
  cases hl with
  | unstarted => exact ⟨rfl, .unstarted⟩
  | gone => exact ⟨rfl, .gone⟩
  | running hw =>
    cases hw with
    | finished => exact ⟨rfl, .running .finished⟩
    | waiting deadline hr =>
      -- neither the attached services nor the time depend on addresses, so both threads resume alike
      have resumed (attached : Bool) := Work.Renamed.ofStep (hr attached p)
      have attached : (ρ.phone p).registry.bound.classicHeadset = p.registry.bound.classicHeadset := rfl
      have now : (ρ.phone p).now = p.now := rfl
      unfold Thread.resume? Work.resume?
      dsimp only
      rw [attached, now]
      split_ifs
      · exact ⟨(resumed true).2, .running (resumed true).1⟩
      · exact ⟨(resumed false).2, .running (resumed false).1⟩
      · exact ⟨rfl, .running (.waiting deadline hr)⟩

theorem move (h : t.Renamed ρ u) (m : ThreadMove) : (t.move m).Renamed ρ (u.move (ρ.move m)) := by
  cases m with
  | start => exact h.start
  | stop => exact h.stop
  | handle => exact h.handleNext
  | resume => exact h.resume
  | outside o =>
    have phone : u.phone.outside (ρ.outside o) = ρ.phone (t.phone.outside o) := by
      rw [h.phone, ρ.phone_outside]
    exact ⟨phone, h.loop⟩

theorem run (h : t.Renamed ρ u) (moves : List ThreadMove) :
    (t.run moves).Renamed ρ (u.run (moves.map ρ.move)) := by
  induction moves generalizing t u with
  | nil => exact h
  | cons m rest ih => exact ih (h.move m)

end Thread.Renamed

/-- A dump is the same answer under every renaming. -/
theorem Renaming.lines_iff (answers : Table Ticket Answer) (ticket : Ticket) (lines : List String) :
    (answers.mapValues ρ.answer).get? ticket = some (.lines lines) ↔
      answers.get? ticket = some (.lines lines) := by
  rw [Table.get?_mapValues]
  cases answers.get? ticket with
  | none => rfl
  | some answer => cases answer <;> simp [Renaming.answer]

/-- A run with all its inputs renamed goes through the renamed states, with the same work to go on with.
Every dump of it, at any moment and as an answer to a question, reads the same, so that dumps reveal nothing
of the octets that a renaming may change. -/
theorem dumps_hide_octets (ρ : Renaming) (config : RouteConfig) (attached : List Profile)
    (moves : List ThreadMove) :
    let t := (Thread.fresh config attached).run moves
    let u := (Thread.fresh config attached).run (moves.map ρ.move)
    u.phone = ρ.phone t.phone ∧ t.loop.Renamed ρ u.loop ∧ u.phone.dump = t.phone.dump ∧
      ∀ ticket lines, u.phone.answers.get? ticket = some (.lines lines) ↔
        t.phone.answers.get? ticket = some (.lines lines) := by
  intro t u
  have renamed : t.Renamed ρ u := (Thread.Renamed.fresh config attached).run moves
  refine ⟨renamed.phone, renamed.loop, ?_, fun ticket lines => ?_⟩
  · rw [renamed.phone, ρ.dump_phone]
  · rw [renamed.phone]
    exact Renaming.lines_iff t.phone.answers ticket lines

/-- Two addresses with the same last two octets trade places. -/
def Renaming.swap (x y : Address) (hx : x ≠ .empty) (hy : y ≠ .empty) (he : x.e = y.e) (hf : x.f = y.f) :
    Renaming where
  toFun := Equiv.swap x y
  injective := (Equiv.swap x y).injective
  empty := Equiv.swap_apply_of_ne_of_ne hx.symm hy.symm
  fifth z := by
    rw [Equiv.swap_apply_def]
    split_ifs with h h'
    · rw [h, he]
    · rw [h', he]
    · rfl
  sixth z := by
    rw [Equiv.swap_apply_def]
    split_ifs with h h'
    · rw [h, hf]
    · rw [h', hf]
    · rfl

theorem dumps_hide_octets_of_swap :
    let x : Address := ⟨1, 0, 0, 0, 0, 9⟩
    let y : Address := ⟨2, 0, 0, 0, 0, 9⟩
    let ρ := Renaming.swap x y (by decide) (by decide) rfl rfl
    let moves : List ThreadMove := [.start, .outside (.post (.deviceAdded ⟨x, .audioSink⟩ .classicHeadset)),
      .handle, .outside (.post (.query .dump 0)), .handle]
    let t := (Thread.fresh {} [.classicHeadset]).run moves
    let u := (Thread.fresh {} [.classicHeadset]).run (moves.map ρ.move)
    t.phone.registry.isConnected x = true ∧ u.phone.registry.isConnected x = false ∧
      ∃ lines, t.phone.answers.get? 0 = some (.lines lines) ∧
        u.phone.answers.get? 0 = some (.lines lines) := by
  intro x y ρ moves t u
  have hidden := dumps_hide_octets ρ {} [.classicHeadset] moves
  refine ⟨by decide, by decide, ?_⟩
  exact ⟨_, rfl, (hidden.2.2.2 0 _).mpr rfl⟩

end CallAudio

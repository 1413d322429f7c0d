import CallAudio.Proofs.Forms
import CallAudio.Proofs.Pauses

/-! The audio operations look at the platform services and the registry alone: from two phones that
agree in these they come to the same result, whatever goes on while they wait. -/
namespace CallAudio

namespace Phone

def services (p : Phone) : Platform × Registry := (p.platform, p.registry)

variable {p q : Phone}

theorem services_ext (hp : p.platform = q.platform) (hr : p.registry = q.registry) :
    p.services = q.services := Prod.ext hp hr

theorem platform_of_services (h : p.services = q.services) : p.platform = q.platform :=
  congrArg Prod.fst h

theorem registry_of_services (h : p.services = q.services) : p.registry = q.registry :=
  congrArg Prod.snd h

theorem services_post (p : Phone) (message : Message) : (p.post message).services = p.services := by
  unfold post
  split <;> rfl

theorem services_postAll (p : Phone) (messages : List Message) :
    (p.postAll messages).services = p.services := by
  induction messages generalizing p with
  | nil => rfl
  | cons m rest ih => exact (ih _).trans (p.services_post m)

theorem services_track (p : Phone)
    (f : TransitionTracker → Option TransitionOutcome × TransitionTracker) :
    (p.track f).services = p.services := by
  rcases p.track_eq f with h | ⟨event, h⟩ <;> (rw [h]; rfl)

theorem services_onRejected (p : Phone) (target : Address) (attempt : Nat)
    (failure : ConnectFailure) : (p.onRejected target attempt failure).services = p.services := by
  unfold onRejected
  dsimp only
  split
  · rw [scheduleRetry_eq]
    rfl
  · rw [services_post, dropRetry_eq]
    rfl

theorem services_dropDeadline (p : Phone) : p.dropDeadline.services = p.services := by
  rw [dropDeadline_eq]
  rfl

theorem makeCommunicationDevice_services (h : p.services = q.services) (address : Address) :
    (p.makeCommunicationDevice address).1 = (q.makeCommunicationDevice address).1 ∧
      (p.makeCommunicationDevice address).2.services =
        (q.makeCommunicationDevice address).2.services := by
  have hp := platform_of_services h
  have hr := registry_of_services h
  unfold makeCommunicationDevice chooseCommunicationDevice
  rw [hp, hr]
  split
  · exact ⟨rfl, h⟩
  dsimp only
  split
  · exact ⟨rfl, h⟩
  split
  · exact ⟨rfl, h⟩
  split
  · exact ⟨rfl, rfl⟩
  · exact ⟨rfl, rfl⟩

/-- What goes on outside does to the services what it would do on any other phone. -/
theorem outside_services (h : p.services = q.services) (o : Outside) :
    (p.outside o).services = (q.outside o).services := by
  have hp := platform_of_services h
  have hr := registry_of_services h
  have posted (p' q' : Phone) (messages messages' : List Message) (h : p'.services = q'.services) :
      (p'.postAll messages).services = (q'.postAll messages').services := by
    rw [services_postAll, services_postAll, h]
  have event (event : Option PlatformEvent) :
      (Bench.onEvent event p).2.services = (Bench.onEvent event q).2.services := by
    cases event with
    | none => exact h
    | some event => exact posted p q _ _ h
  cases o with
  | post message => exact posted p q [message] [message] h
  | event act =>
    cases act with
    | serviceAttached profile => exact services_ext hp (congrArg (·.attach profile) hr)
    | serviceLost profile =>
      exact posted _ _ _ _ (services_ext hp (congrArg (fun r => (r.detach profile).2) hr))
    | setInCall => exact h
    | event | rawConnection | rawSco => exact event _
    | communicationDeviceChanged device => exact posted _ _ _ _ h
  | registry act =>
    cases act with
    | attach profile => exact services_ext hp (congrArg (·.attach profile) hr)
    | detach profile => exact services_ext hp (congrArg (fun r => (r.detach profile).2) hr)
    | connect profile device =>
      have membership : p.membership = q.membership := by
        unfold membership
        rw [hp]
      refine services_ext hp ?_
      change (p.registry.connect p.membership device profile).2 =
        (q.registry.connect q.membership device profile).2
      rw [membership, hr]
    | disconnect address profile =>
      exact services_ext hp (congrArg (fun r => (r.disconnect address profile).2) hr)
    | setActive profile address =>
      exact services_ext hp (congrArg (fun r => (r.setActive profile address).2) hr)
    | makeCommunicationDevice address => exact (makeCommunicationDevice_services h address).2
    | _ => exact h
  | communication device =>
    exact services_ext hp (congrArg (fun r => { r with communication := device }) hr)
  | platform platform => exact services_ext rfl hr
  | fire timer =>
    have fired (r : Phone) : (r.fireTimer timer).services = r.services := by
      unfold fireTimer
      split
      · rfl
      split
      · exact services_post _ _
      · rfl
    exact (fired p).trans (h.trans (fired q).symm)
  | pass span => exact h

theorem outsides_services (h : p.services = q.services) (os : List Outside) :
    (p.outsides os).services = (q.outsides os).services := by
  induction os generalizing p q with
  | nil => exact h
  | cons o rest ih => exact ih (outside_services h o)

/-- All that can come of something outside for the services. -/
inductive Meddling (p : Phone) : Outside → Platform × Registry → Prop
  | none (o : Outside) : Meddling p o p.services
  | bound (o : Outside) (bound : PerProfile Bool) :
      Meddling p o (p.platform, { p.registry with bound })
  | connected (profile : Profile) (device : Device) :
      Meddling p (.registry (.connect profile device)) (p.addDevice device profile).2.services
  | disconnected (address : Address) (profile : Profile) :
      Meddling p (.registry (.disconnect address profile)) (p.removeDevice address profile).2.services
  | activated (profile : Profile) (address : Option Address) :
      Meddling p (.registry (.setActive profile address)) (p.setActiveDevice profile address).2.services
  | made (address : Address) :
      Meddling p (.registry (.makeCommunicationDevice address)) (p.makeCommunicationDevice address).2.services
  | communication (device : Option (Address × EndpointKind)) :
      Meddling p (.communication device) (p.platform, { p.registry with communication := device })
  | platform (platform : Platform) : Meddling p (.platform platform) (platform, p.registry)

theorem outside_meddling (p : Phone) (o : Outside) : Meddling p o (p.outside o).services := by
  have posted (q : Phone) (messages : List Message) (h : Meddling p o q.services) :
      Meddling p o (q.postAll messages).services := by
    rwa [services_postAll]
  have event (event : Option PlatformEvent) : Meddling p o (Bench.onEvent event p).2.services := by
    cases event with
    | none => exact .none o
    | some event => exact posted p _ (.none o)
  cases o with
  | post message => exact posted p [message] (.none _)
  | event act =>
    cases act with
    | serviceAttached profile => exact .bound _ _
    | serviceLost profile => exact posted _ _ (.bound _ _)
    | setInCall => exact .none _
    | event | rawConnection | rawSco => exact event _
    | communicationDeviceChanged device => exact posted _ _ (.none _)
  | registry act =>
    cases act with
    | attach | detach => exact .bound _ _
    | connect profile device => exact .connected profile device
    | disconnect address profile => exact .disconnected address profile
    | setActive profile address => exact .activated profile address
    | makeCommunicationDevice address => exact .made address
    | _ => exact .none _
  | communication device => exact .communication device
  | platform platform => exact .platform platform
  | fire timer =>
    change Meddling p _ (p.fireTimer timer).services
    unfold fireTimer
    split
    · exact .none _
    split
    · exact posted _ [_] (.none _)
    · exact .none _
  | pass span => exact .none _

end Phone

variable {α β : Type}

/-- Two endings with the same result and services. -/
structure Ending.Agree (e e' : Ending α) : Prop where
  value : e.value = e'.value
  services : e.phone.services = e'.phone.services
  pauses : e.pauses = e'.pauses

/-- The job looks at the services only, and does the same to them wherever it is done. -/
def Job.ByServices (job : Job α) : Prop :=
  ∀ p q pauses, p.services = q.services → ((job p).finish pauses).Agree ((job q).finish pauses)

namespace Job
open Phone

theorem byServices_pure (value : α) : (pure value : Job α).ByServices :=
  fun _ _ _ h => ⟨rfl, h, rfl⟩

theorem byServices_update {f : Phone → Phone}
    (hf : ∀ p q, p.services = q.services → (f p).services = (f q).services) :
    (Job.update f).ByServices := fun p q _ h => ⟨rfl, hf p q h, rfl⟩

theorem byServices_change {f : Phone → α × Phone}
    (hf : ∀ p q, p.services = q.services → (f p).1 = (f q).1 ∧ (f p).2.services = (f q).2.services) :
    (Job.change f).ByServices := fun p q _ h => ⟨(hf p q h).1, (hf p q h).2, rfl⟩

theorem ByServices.bind {job : Job α} {next : α → Job β} (h : job.ByServices)
    (hn : ∀ value, (next value).ByServices) : (job >>= next).ByServices := by
  intro p q pauses hs
  have first := h p q pauses hs
  rw [finish_bind, finish_bind, first.value, first.pauses]
  exact hn _ _ _ _ first.services

/-- What is read may be used as far as it is the same for the same services. -/
theorem byServices_read_bind {next : Phone → Job β}
    (same : ∀ p q, p.services = q.services → next p = next q) (hn : ∀ p, (next p).ByServices) :
    (Job.read >>= next).ByServices := by
  intro p q pauses h
  rw [finish_read_bind, finish_read_bind, same p q h]
  exact hn q p q pauses h

theorem byServices_awaitHeadset : Job.awaitHeadset.ByServices := by
  intro p q pauses h
  unfold Job.awaitHeadset
  rw [registry_of_services h]
  split
  · exact ⟨rfl, h, rfl⟩
  · exact ⟨rfl, outsides_services h _, rfl⟩

end Job

namespace Phone
open Job

theorem connectAudio_byServices (address : Address) (switching : Bool) :
    (connectAudio address switching).ByServices := by
  have finished : (finishConnect address switching).ByServices := by
    refine ByServices.bind (byServices_update fun p q h => ?_) fun _ => byServices_pure _
    cases switching
    · exact (makeCommunicationDevice_services h address).2
    · exact h
  have activated (use : ActiveUse) : (Job.change (activate address use)).ByServices := by
    refine byServices_change fun p q h => ?_
    have hr := registry_of_services h
    unfold activate
    rw [platform_of_services h]
    exact ⟨rfl, services_ext rfl hr⟩
  have sco : (Job.change connectSco).ByServices := by
    refine byServices_change fun p q h => ?_
    have hr := registry_of_services h
    unfold connectSco
    rw [platform_of_services h]
    exact ⟨rfl, services_ext rfl hr⟩
  refine ByServices.bind (byServices_update fun p q h => h) fun _ => ?_
  refine byServices_read_bind (fun p q h => by rw [registry_of_services h]) fun p => ?_
  split
  · exact byServices_pure _
  · refine ByServices.bind byServices_awaitHeadset fun attached => ?_
    split
    · refine ByServices.bind (activated _) fun accepted => ?_
      split
      · refine ByServices.bind sco fun reply => ?_
        split
        · exact finished
        · exact byServices_pure _
      · exact byServices_pure _
    · exact byServices_pure _
  · refine ByServices.bind (activated _) fun accepted => ?_
    split
    · exact finished
    · exact byServices_pure _

theorem disconnectAudio_byServices : disconnectAudio.ByServices := by
  have released {p q : Phone} (h : p.services = q.services) :
      p.releaseCommunicationDevice.services = q.releaseCommunicationDevice.services := by
    unfold releaseCommunicationDevice
    rw [registry_of_services h]
    split
    · exact h
    dsimp only
    have cleared (registry : Registry) :
        ({ p with registry } : Phone).clearCommunicationDevice.services =
          ({ q with registry } : Phone).clearCommunicationDevice.services := by
      unfold clearCommunicationDevice
      exact services_ext (by rw [platform_of_services h]) rfl
    split
    · exact cleared _
    · rw [services_post, services_post]
      exact cleared _
  refine ByServices.bind (byServices_update fun p q h => h) fun _ => ?_
  refine ByServices.bind byServices_awaitHeadset fun attached => ?_
  refine byServices_update fun p q h => ?_
  cases attached
  · exact released h
  · have torn : p.disconnectSco.services = q.disconnectSco.services := by
      have hr := registry_of_services h
      unfold disconnectSco
      rw [platform_of_services h]
      exact services_ext rfl hr
    exact released torn

theorem communicationCarrier_of_services {p q : Phone} (h : p.services = q.services) :
    p.communicationCarrier = q.communicationCarrier := by
  unfold communicationCarrier
  rw [platform_of_services h, registry_of_services h]

theorem carryingAudio_byServices : carryingAudio.ByServices := by
  refine byServices_read_bind (fun p q h => by rw [registry_of_services h]) fun p => ?_
  split
  · refine byServices_read_bind (fun p q h => ?_) fun p => byServices_pure _
    rw [communicationCarrier_of_services h]
  · refine ByServices.bind byServices_awaitHeadset fun attached => ?_
    refine byServices_read_bind (fun p q h => ?_) fun p => byServices_pure _
    rw [platform_of_services h, communicationCarrier_of_services h]

/-- Asks for audio on a device, after tearing down that of another if there is one. -/
def requestAudio (target : Address) (switching : Bool) : Job (Except ConnectFailure Unit) := do
  Job.when switching disconnectAudio
  connectAudio target switching

theorem requestAudio_byServices (target : Address) (switching : Bool) :
    (requestAudio target switching).ByServices := by
  refine ByServices.bind ?_ fun _ => connectAudio_byServices target switching
  cases switching
  · exact byServices_pure ()
  · exact disconnectAudio_byServices

end Phone
end CallAudio

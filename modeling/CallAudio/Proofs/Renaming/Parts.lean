import CallAudio.Proofs.Devices
import CallAudio.Proofs.Renaming.Basic

/-! Renaming goes through the operations of the tracker, the registry and the platform services, and leaves
what they decide as it is. -/
namespace CallAudio.Renaming

variable (ρ : Renaming)

/-! ### Addresses in lists -/

@[simp] theorem contains_map (items : List Address) (a : Address) :
    (items.map ρ).contains (ρ a) = items.contains a := by
  rw [Bool.eq_iff_iff, List.contains_iff_mem, List.contains_iff_mem]
  exact List.mem_map_of_injective ρ.injective

theorem map_filter_ne (items : List Address) (a : Address) :
    (items.filter (· ≠ a)).map ρ = (items.map ρ).filter (· ≠ ρ a) := by
  rw [List.filter_map]
  congr 2
  funext x
  simp only [Function.comp_apply, ne_eq, apply_inj]

/-! ### Routes, states and tokens -/

@[simp] theorem route_inj {r r' : AudioRoute} : ρ.route r = ρ.route r' ↔ r = r' := by
  cases r
  cases r'
  simp only [route, AudioRoute.mk.injEq, option_inj]

@[simp] theorem state_inj {s s' : RouteState} : ρ.state s = ρ.state s' ↔ s = s' := by
  cases s <;> cases s' <;> simp [state]

@[simp] theorem state_eq_connected {s : RouteState} {a : Address} :
    ρ.state s = .connected (ρ a) ↔ s = .connected a :=
  show ρ.state s = ρ.state (.connected a) ↔ _ from ρ.state_inj

@[simp] theorem state_eq_connecting {s : RouteState} {a : Address} :
    ρ.state s = .connecting (ρ a) ↔ s = .connecting a :=
  show ρ.state s = ρ.state (.connecting a) ↔ _ from ρ.state_inj

@[simp] theorem liveAddress_state (s : RouteState) :
    (ρ.state s).liveAddress = s.liveAddress.map ρ := by
  cases s <;> rfl

@[simp] theorem isLive_state (s : RouteState) : (ρ.state s).isLive = s.isLive := by
  cases s <;> rfl

@[simp] theorem isSatisfiedBy_token (expected observed : ConfirmationToken) :
    (ρ.token expected).isSatisfiedBy (ρ.token observed) = expected.isSatisfiedBy observed := by
  have same : decide (expected.address.map ρ = observed.address.map ρ) =
      decide (expected.address = observed.address) := decide_eq_decide.mpr ρ.option_inj
  unfold ConfirmationToken.isSatisfiedBy token
  dsimp only
  rw [Option.isNone_map, same]

theorem machine_unuse (m : Machine) (a : Address) :
    ρ.machine (m.unuse a) = (ρ.machine m).unuse (ρ a) := by
  unfold Machine.unuse machine
  rw [map_filter_ne]

theorem machine_use (m : Machine) (a : Address) : ρ.machine (m.use a) = (ρ.machine m).use (ρ a) := by
  unfold Machine.use machine
  rw [List.map_append, map_filter_ne]
  rfl

/-! ### What is written about them -/

@[simp] theorem text_state (s : RouteState) : (ρ.state s).text = s.text := by
  cases s <;> simp [state, RouteState.text]

@[simp] theorem text_route (r : AudioRoute) : (ρ.route r).text = r.text := by
  obtain ⟨kind, address⟩ := r
  cases address <;> simp [route, AudioRoute.text]

@[simp] theorem optional_redacted (a : Option Address) :
    Text.optional Address.redacted (a.map ρ) = Text.optional Address.redacted a := by
  cases a <;> simp [Text.optional]

@[simp] theorem description_token (t : ConfirmationToken) : (ρ.token t).description = t.description := by
  unfold ConfirmationToken.description token
  rw [optional_redacted]

theorem text_entry (e : HistoryEntry) : (ρ.entry e).text = e.text := by
  cases e with
  | noDevices requested =>
    exact congrArg (fun text => "connect " ++ text ++ ": no devices available")
      (ρ.optional_redacted requested)
  | connectFailed target attempt failure =>
    exact congrArg
      (fun text => "connect " ++ text ++ " attempt " ++ Nat.repr attempt ++ " failed: " ++ failure.name)
      (ρ.redacted_apply target)
  | disconnectRequested state => exact congrArg ("disconnect requested in " ++ ·) (ρ.text_state state)
  | timedOut address =>
    exact congrArg (fun text => "connection to " ++ text ++ " timed out") (ρ.redacted_apply address)
  | unexpectedLoss address state =>
    exact congrArg₂ (fun lost at' => "unexpected audio loss for " ++ lost ++ " in " ++ at')
      (ρ.redacted_apply address) (ρ.text_state state)
  | moved source target =>
    exact congrArg₂ (fun left reached => left ++ " -> " ++ reached) (ρ.text_state source)
      (ρ.text_state target)

theorem listed_map {α : Type} (f : α → α) (write : α → String) (h : ∀ x, write (f x) = write x)
    (items : List α) : Text.listed write (items.map f) = Text.listed write items := by
  unfold Text.listed
  rw [List.map_map]
  simp only [Function.comp_def, h]

/-! ### The tracker -/

def plan (x : TransitionPlan) : TransitionPlan :=
  { x with actions := x.actions.map ρ.action, tokens := x.tokens.map ρ.token }

theorem plan_leaving (origin destination : AudioRoute) (destinationActive : Bool) :
    ρ.plan (.leaving origin destination destinationActive) =
      .leaving (ρ.route origin) (ρ.route destination) destinationActive := by
  simp only [plan, TransitionPlan.leaving, List.map_append, apply_ite (List.map _)]
  rfl

theorem plan_entering (destination : AudioRoute) :
    ρ.plan (.entering destination) = .entering (ρ.route destination) := by
  have same : (ρ.route destination).isBluetooth = destination.isBluetooth := rfl
  unfold TransitionPlan.entering
  rw [same, apply_ite ρ.plan]
  simp only [plan, apply_ite (List.map _)]
  rfl

theorem plan_between (active : Bool) (origin destination : AudioRoute) (destinationActive : Bool) :
    ρ.plan (.between active origin destination destinationActive) =
      .between active (ρ.route origin) (ρ.route destination) destinationActive := by
  have same : (ρ.route origin = ρ.route destination) = (origin = destination) := propext ρ.route_inj
  simp only [TransitionPlan.between, ne_eq, same, ← plan_leaving, ← plan_entering]
  simp only [plan, List.map_append, apply_ite TransitionPlan.actions, apply_ite TransitionPlan.tokens,
    apply_ite TransitionPlan.communicationKind, apply_ite (List.map _)]
  rfl

theorem map_swapErase {α β : Type} (f : α → β) (items : List α) (i : Nat) :
    (swapErase items i).map f = swapErase (items.map f) i := by
  unfold swapErase
  rw [List.getLast?_map]
  cases items.getLast? with
  | none => rfl
  | some z =>
    rw [List.map_dropLast, List.map_set]
    rfl

theorem settle_tracker (t : TransitionTracker) :
    (ρ.tracker t).settle = t.settle.map (Option.map ρ.transitionOutcome) ρ.tracker := by
  obtain ⟨nextId, pending, active⟩ := t
  cases pending with
  | none => rfl
  | some p =>
    obtain ⟨id, origin, destination, destinationActive, outstanding, kind⟩ := p
    cases outstanding <;> rfl

theorem confirm_tracker (t : TransitionTracker) (c : Confirmation) :
    (ρ.tracker t).confirm (ρ.confirmation c) =
      (t.confirm c).map (Option.map ρ.transitionOutcome) ρ.tracker := by
  obtain ⟨nextId, pending, active⟩ := t
  cases pending with
  | none => rfl
  | some p =>
    have found : (ρ.pending p).outstanding.findIdx? (·.isSatisfiedBy (ρ.confirmation c).token) =
        p.outstanding.findIdx? (·.isSatisfiedBy c.token) := by
      change (p.outstanding.map ρ.token).findIdx? (·.isSatisfiedBy (ρ.token c.token)) = _
      rw [List.findIdx?_map]
      simp only [Function.comp_def, isSatisfiedBy_token]
    change (if c.transition.any (· ≠ p.id) then _ else _) = Prod.map _ _ (if _ then _ else _)
    split
    · rfl
    · rw [found]
      cases p.outstanding.findIdx? (·.isSatisfiedBy c.token) with
      | none => rfl
      | some i =>
        dsimp only
        rw [← settle_tracker]
        unfold tracker
        simp only [Option.map_some, pending, map_swapErase]

theorem fail_tracker (t : TransitionTracker) (failed : Option Address) :
    (ρ.tracker t).fail (failed.map ρ) = (t.fail failed).map (Option.map ρ.transitionOutcome) ρ.tracker := by
  obtain ⟨nextId, pending, active⟩ := t
  cases pending with
  | none => rfl
  | some p =>
    have exclude : (failed.map ρ).or (p.destination.address.map ρ) =
        (failed.or p.destination.address).map ρ := Option.map_or.symm
    change (some (TransitionOutcome.fallBackToBaseline
      ((failed.map ρ).or (p.destination.address.map ρ))), _) = _
    rw [exclude]
    rfl

theorem timeOut_tracker (t : TransitionTracker) (id : TransitionId) :
    (ρ.tracker t).timeOut id = (t.timeOut id).map (Option.map ρ.transitionOutcome) ρ.tracker := by
  have failed := ρ.fail_tracker t none
  obtain ⟨nextId, pending, active⟩ := t
  cases pending with
  | none => rfl
  | some p =>
    change (if p.id = id then _ else _) = Prod.map _ _ (if p.id = id then _ else _)
    split
    · exact failed
    · rfl

theorem isAwaiting_tracker (t : TransitionTracker) (observed : ConfirmationToken) :
    (ρ.tracker t).isAwaiting (ρ.token observed) = t.isAwaiting observed := by
  obtain ⟨nextId, pending, active⟩ := t
  cases pending with
  | none => rfl
  | some p =>
    change (p.outstanding.map ρ.token).any _ = p.outstanding.any _
    rw [List.any_map]
    simp only [Function.comp_def, isSatisfiedBy_token]

theorem begin_tracker (t : TransitionTracker) (origin destination : AudioRoute)
    (destinationActive : Bool) :
    (ρ.tracker t).begin (ρ.route origin) (ρ.route destination) destinationActive =
      (t.begin origin destination destinationActive).map id (Prod.map (List.map ρ.action) ρ.tracker) := by
  have planned := ρ.plan_between t.active origin destination destinationActive
  unfold TransitionTracker.begin
  change (_, (TransitionPlan.between t.active _ _ _).actions, _) = _
  dsimp only [tracker]
  rw [← planned]
  rfl

/-! ### The registry -/

@[simp] theorem holds_registry (r : Registry) (profile : Profile) (a : Address) :
    (ρ.registry r).holds profile (ρ a) = r.holds profile a := by
  unfold Registry.holds registry
  rw [PerProfile.get_map, List.any_map]
  simp only [Function.comp_def, device, apply_inj]

@[simp] theorem profileOf_registry (r : Registry) (a : Address) :
    (ρ.registry r).profileOf (ρ a) = r.profileOf a := by
  simp only [Registry.profileOf, holds_registry]

@[simp] theorem isConnected_registry (r : Registry) (a : Address) :
    (ρ.registry r).isConnected (ρ a) = r.isConnected a := by
  simp only [Registry.isConnected, profileOf_registry]

@[simp] theorem group_registry (r : Registry) (a : Address) :
    (ρ.registry r).groups.get? (ρ a) = r.groups.get? a := Table.get?_mapKeys ρ.injective _ _

theorem active_registry (r : Registry) {profile : Profile} {a : Address} :
    (ρ.registry r).active.get profile = some (ρ a) ↔ r.active.get profile = some a := by
  unfold registry
  rw [PerProfile.get_map]
  exact ρ.option_eq_some

theorem registry_attach (r : Registry) (profile : Profile) :
    ρ.registry (r.attach profile) = (ρ.registry r).attach profile := rfl

theorem detach_registry (r : Registry) (profile : Profile) :
    (ρ.registry r).detach profile = (r.detach profile).map (List.map ρ) ρ.registry := by
  have addresses : ((ρ.registry r).devices.get profile).map Device.address =
      ((r.devices.get profile).map Device.address).map ρ := by
    unfold registry
    rw [PerProfile.get_map, List.map_map, List.map_map]
    rfl
  exact Prod.ext addresses rfl

/-- The services know the same sets under the new addresses. -/
structure Knows (membership membership' : SetMembership) : Prop where
  pairOf : ∀ a, membership'.pairOf (ρ a) = membership.pairOf a
  groupOf : ∀ a, membership'.groupOf (ρ a) = membership.groupOf a

section
variable {membership membership' : SetMembership}

theorem groupFor_registry (h : ρ.Knows membership membership') (r : Registry) (a : Address)
    (profile : Profile) :
    (ρ.registry r).groupFor membership' (ρ a) profile = r.groupFor membership a profile := by
  unfold Registry.groupFor
  rw [group_registry, h.groupOf]
  rfl

theorem pairFor_registry (h : ρ.Knows membership membership') (r : Registry) (a : Address)
    (profile : Profile) :
    (ρ.registry r).pairFor membership' (ρ a) profile = r.pairFor membership a profile := by
  unfold Registry.pairFor
  rw [h.pairOf]
  rfl

theorem connect_registry (h : ρ.Knows membership membership') (r : Registry) (d : Device)
    (profile : Profile) :
    (ρ.registry r).connect membership' (ρ.device d) profile =
      (r.connect membership d profile).map id ρ.registry := by
  have address : (ρ.device d).address = ρ d.address := rfl
  have bound : (ρ.registry r).bound = r.bound := rfl
  unfold Registry.connect
  simp only [address, bound, apply_eq_empty, holds_registry, ρ.groupFor_registry h,
    ρ.pairFor_registry h, apply_ite (Prod.map id ρ.registry)]
  split_ifs
  · rfl
  · rfl
  · rfl
  · refine Prod.ext rfl ?_
    change _ = ρ.registry _
    unfold registry
    rw [PerProfile.map_set, PerProfile.get_map, List.map_append]
    cases r.groupFor membership d.address profile <;>
      cases r.pairFor membership d.address profile <;>
        simp only [Table.mapKeys_set ρ.injective] <;> rfl

end

theorem registry_forget (r : Registry) (a : Address) :
    ρ.registry (r.forget a) = (ρ.registry r).forget (ρ a) := by
  have others : (r.communication.map ρ.communication).filter (fun c => c.1 ≠ ρ a) =
      (r.communication.filter fun c => c.1 ≠ a).map ρ.communication := by
    rw [Option.filter_map]
    simp only [Function.comp_def, communication, ne_eq, apply_inj]
  unfold Registry.forget registry
  rw [Table.mapKeys_erase ρ.injective, Table.mapKeys_erase ρ.injective, ← others]

theorem registry_delisted (r : Registry) (a : Address) (profile : Profile) :
    ρ.registry (r.delisted a profile) = (ρ.registry r).delisted (ρ a) profile := by
  have others : ((r.devices.get profile).map ρ.device).filter (fun d => d.address ≠ ρ a) =
      ((r.devices.get profile).filter fun d => d.address ≠ a).map ρ.device := by
    rw [List.filter_map]
    simp only [Function.comp_def, device, ne_eq, apply_inj]
  unfold Registry.delisted registry
  simp only [PerProfile.map_set, PerProfile.get_map, option_eq_some, others,
    apply_ite (PerProfile.map _)]
  rfl

theorem disconnect_registry (r : Registry) (a : Address) (profile : Profile) :
    (ρ.registry r).disconnect (ρ a) profile = (r.disconnect a profile).map id ρ.registry := by
  rw [Registry.disconnect_delisted, Registry.disconnect_delisted, holds_registry, ← registry_delisted,
    isConnected_registry, ← registry_forget]
  split
  · exact Prod.ext rfl (apply_ite ρ.registry _ _ _).symm
  · rfl

@[simp] theorem hasActive_registry (r : Registry) : (ρ.registry r).hasActive = r.hasActive := by
  unfold Registry.hasActive registry
  simp only [PerProfile.get_map, Option.isSome_map]

theorem setActive_registry (r : Registry) (profile : Profile) (a : Option Address) :
    (ρ.registry r).setActive profile (a.map ρ) = (r.setActive profile a).map id ρ.registry := by
  have changed : ({ ρ.registry r with active := (ρ.registry r).active.set profile (a.map ρ) } : Registry) =
      ρ.registry { r with active := r.active.set profile a } := by
    unfold registry
    rw [PerProfile.map_set]
  unfold Registry.setActive
  dsimp only
  rw [changed, hasActive_registry, hasActive_registry]
  rfl

theorem dump_registry (r : Registry) : (ρ.registry r).dump = r.dump := by
  have devices (profile : Profile) :
      Text.listed (fun d => d.address.redacted) ((ρ.registry r).devices.get profile) =
        Text.listed (fun d => d.address.redacted) (r.devices.get profile) := by
    unfold registry
    rw [PerProfile.get_map]
    exact listed_map ρ.device _ (fun d => ρ.redacted_apply d.address) _
  have active (profile : Profile) :
      Text.optional Address.redacted ((ρ.registry r).active.get profile) =
        Text.optional Address.redacted (r.active.get profile) := by
    unfold registry
    rw [PerProfile.get_map, optional_redacted]
  have communication :
      Text.optional (Text.paired Address.redacted EndpointKind.name) (ρ.registry r).communication =
        Text.optional (Text.paired Address.redacted EndpointKind.name) r.communication := by
    change Text.optional _ (r.communication.map ρ.communication) = _
    cases r.communication with
    | none => rfl
    | some c =>
      change "Some(" ++ ("(" ++ (ρ c.1).redacted ++ _ ++ _ ++ _) ++ _ = _
      rw [redacted_apply]
      rfl
  unfold Registry.dump
  simp only [devices, active, communication]

/-! ### The device that a connect goes to -/

def listing (l : Registry.Listing) : Registry.Listing := { l with devices := l.devices.map ρ.device }

theorem listing_add (r : Registry) (l : Registry.Listing) (entry : Profile × Device) :
    ρ.listing (.add r l entry) = .add (ρ.registry r) (ρ.listing l) (entry.map id ρ.device) := by
  obtain ⟨profile, d⟩ := entry
  have present : ((l.devices.map ρ.device).any fun x => x.address = (ρ.device d).address) =
      l.devices.any fun x => x.address = d.address := by
    rw [List.any_map]
    simp only [Function.comp_def, device, apply_inj]
  have group : (ρ.registry r).groups.get? (ρ.device d).address = r.groups.get? d.address :=
    ρ.group_registry r d.address
  have added (headsetGroups : List GroupId) : ρ.listing ⟨l.devices ++ [d], headsetGroups⟩ =
      ⟨l.devices.map ρ.device ++ [ρ.device d], headsetGroups⟩ := by
    unfold listing
    rw [List.map_append]
    rfl
  change ρ.listing (if _ then _ else _) = if (l.devices.map ρ.device).any _ then _ else _
  rw [present, group]
  split
  · rfl
  · cases profile with
    | classicHeadset => exact added _
    | hearingAid => exact added _
    | leAudio => exact (apply_ite ρ.listing _ _ _).trans (congrArg _ (added _))

theorem connected_registry (r : Registry) : (ρ.registry r).connected = r.connected.map ρ.device := by
  have entries (profile : Profile) : ((ρ.registry r).devices.get profile).map (profile, ·) =
      ((r.devices.get profile).map (profile, ·)).map (Prod.map id ρ.device) := by
    unfold registry
    rw [PerProfile.get_map, List.map_map, List.map_map]
    rfl
  have listed (items : List (Profile × Device)) :
      items.foldl (fun l entry => .add (ρ.registry r) l (entry.map id ρ.device)) (ρ.listing {}) =
        ρ.listing (items.foldl (.add r) {}) :=
    List.foldl_hom ρ.listing fun l entry => (ρ.listing_add r l entry).symm
  unfold Registry.connected
  simp only [entries, ← List.map_flatMap]
  rw [List.foldl_map]
  exact congrArg Registry.Listing.devices (listed _)

theorem connectTarget_registry (r : Registry) (requested : Option Address) (recent : List Address) :
    (ρ.registry r).connectTarget (requested.map ρ) (recent.map ρ) =
      (r.connectTarget requested recent).map ρ := by
  have active : Registry.activePriority.filterMap (ρ.registry r).active.get =
      (Registry.activePriority.filterMap r.active.get).map ρ := by
    rw [List.map_filterMap]
    congr 1
    funext profile
    exact PerProfile.get_map ..
  have reachable (x : Address) : (ρ.registry r).isConnected (ρ x) = r.isConnected x :=
    ρ.isConnected_registry r x
  unfold Registry.connectTarget
  dsimp only
  rw [active, connected_registry, ← List.map_reverse, List.find?_map, List.find?_map, List.find?_map,
    List.head?_map, Option.filter_map]
  simp only [Function.comp_def, reachable, Option.map_or, Option.map_map]
  rfl

end CallAudio.Renaming

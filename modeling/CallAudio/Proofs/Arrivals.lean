import CallAudio.Proofs.Listings

/-! Histories of the registry in which services are bound and devices connect. The set of a device is looked
up as the device is taken in and at no other time, so what is listed depends on which devices were taken in
with the service bound that knows their sets. -/
namespace CallAudio

inductive Arrival where
  | service (profile : Profile)
  | device (device : Device) (profile : Profile)
deriving DecidableEq

/-- The service that knows the set of a device that connects over the profile. -/
def Profile.informant : Profile → Profile
  | .hearingAid => .hearingAid
  | _ => .leAudio

namespace Registry

variable (membership : SetMembership)

def arrive (r : Registry) : Arrival → Registry
  | .service profile => r.attach profile
  | .device device profile => (r.connect membership device profile).2

def arrived (arrivals : List Arrival) : Registry := arrivals.foldl (arrive membership) {}

/-- The device was taken in over the profile when the service that knows its set was bound. -/
def LookedUp (arrivals : List Arrival) (profile : Profile) (address : Address) : Prop :=
  ∃ earlier device later, arrivals = earlier ++ .device device profile :: later ∧
    device.address = address ∧ (arrived membership earlier).Admits device profile ∧
    ¬(arrived membership earlier).holds profile address ∧ .service profile.informant ∈ earlier

variable {membership} {arrivals : List Arrival} {profile profile' : Profile} {address : Address}

theorem arrived_concat (a : Arrival) :
    arrived membership (arrivals ++ [a]) = (arrived membership arrivals).arrive membership a := by
  rw [arrived, List.foldl_append]
  rfl

theorem lookedUp_concat (a : Arrival) : LookedUp membership (arrivals ++ [a]) profile address ↔
    LookedUp membership arrivals profile address ∨ ∃ device, a = .device device profile ∧
      device.address = address ∧ (arrived membership arrivals).Admits device profile ∧
      ¬(arrived membership arrivals).holds profile address ∧ .service profile.informant ∈ arrivals := by
  constructor
  · rintro ⟨earlier, device, later, split, taken⟩
    rcases List.eq_nil_or_concat later with rfl | ⟨later, last, rfl⟩
    · obtain ⟨rfl, same⟩ := List.append_inj' split rfl
      exact Or.inr ⟨device, (List.cons.inj same).1, taken⟩
    · rw [List.concat_eq_append, ← List.cons_append, ← List.append_assoc] at split
      exact Or.inl ⟨earlier, device, later, (List.append_inj' split rfl).1, taken⟩
  · rintro (⟨earlier, device, later, rfl, taken⟩ | ⟨device, rfl, taken⟩)
    · exact ⟨earlier, device, later ++ [a], by simp, taken⟩
    · exact ⟨arrivals, device, [], rfl, taken⟩

theorem lookedUp_service (service : Profile) :
    LookedUp membership (arrivals ++ [.service service]) profile address ↔
      LookedUp membership arrivals profile address := by
  rw [lookedUp_concat]
  exact or_iff_left fun ⟨_, h, _⟩ => nomatch h

theorem lookedUp_device (device : Device) (profile' : Profile) :
    LookedUp membership (arrivals ++ [.device device profile']) profile address ↔
      LookedUp membership arrivals profile address ∨ profile' = profile ∧ device.address = address ∧
        ((arrived membership arrivals).Admits device profile' ∧
          ¬(arrived membership arrivals).holds profile' device.address) ∧
        .service profile'.informant ∈ arrivals := by
  rw [lookedUp_concat]
  refine or_congr_right ⟨?_, ?_⟩
  · rintro ⟨_, ⟨⟩, rfl, admits, absent, bound⟩
    exact ⟨rfl, rfl, ⟨admits, absent⟩, bound⟩
  · rintro ⟨rfl, rfl, ⟨admits, absent⟩, bound⟩
    exact ⟨device, rfl, rfl, admits, absent, bound⟩

/-- A service is bound once it has arrived. -/
theorem bound_arrived : (arrived membership arrivals).bound.get profile = true ↔
    .service profile ∈ arrivals := by
  induction arrivals using List.reverseRecOn with
  | nil => cases profile <;> simp [arrived, PerProfile.get_uniform]
  | append_singleton arrivals a ih =>
    rw [arrived_concat, List.mem_append, List.mem_singleton, ← ih]
    cases a with
    | service other =>
      change ((arrived membership arrivals).bound.set other true).get profile = true ↔ _
      rw [PerProfile.get_set, Arrival.service.injEq]
      split <;> simp_all
    | device device other =>
      obtain ⟨_, _, _, form⟩ := (arrived membership arrivals).connect_eq membership device other
      change ((arrived membership arrivals).connect membership device other).2.bound.get profile = true ↔ _
      rw [form]
      exact (or_iff_left nofun).symm

/-- Devices are looked up for the profiles that they stay connected over. -/
theorem holds_of_lookedUp (h : LookedUp membership arrivals profile address) :
    (arrived membership arrivals).holds profile address = true := by
  induction arrivals using List.reverseRecOn with
  | nil =>
    obtain ⟨earlier, _, _, split, -⟩ := h
    cases earlier <;> cases split
  | append_singleton arrivals a ih =>
    rw [arrived_concat]
    cases a with
    | service => exact ih ((lookedUp_service _).mp h)
    | device device other =>
      refine (holds_connect membership device).mpr ?_
      rcases (lookedUp_device device other).mp h with before | ⟨rfl, rfl, taken, -⟩
      · exact Or.inl (ih before)
      · exact Or.inr ⟨⟨rfl, rfl⟩, taken.1⟩

/-- LE Audio devices are taken in with their service bound only. -/
theorem lookedUp_leAudio : LookedUp membership arrivals .leAudio address ↔
    (arrived membership arrivals).holds .leAudio address = true := by
  refine ⟨holds_of_lookedUp, fun held => ?_⟩
  induction arrivals using List.reverseRecOn with
  | nil => cases held
  | append_singleton arrivals a ih =>
    rw [arrived_concat] at held
    cases a with
    | service => exact (lookedUp_service _).mpr (ih held)
    | device device other =>
      rw [lookedUp_device]
      by_cases before : (arrived membership arrivals).holds .leAudio address = true
      · exact Or.inl (ih before)
      · rcases (holds_connect membership device).mp held with old | ⟨⟨rfl, rfl⟩, admits⟩
        · exact absurd old before
        · exact Or.inr ⟨rfl, rfl, ⟨admits, before⟩, bound_arrived.mp (admits.2 rfl)⟩

theorem groupFor_eq_some_iff {r : Registry} {group : GroupId} :
    r.groupFor membership address profile = some group ↔ r.groups.get? address = some group ∨
      r.groups.get? address = none ∧ profile ≠ .hearingAid ∧ r.bound.get .leAudio = true ∧
        membership.groupOf address = some group := by
  unfold groupFor
  cases r.groups.get? address with
  | some earlier => simp
  | none =>
    cases profile with
    | hearingAid => simp
    | classicHeadset | leAudio => simp [PerProfile.get]

/-- A device that is taken in has its set looked up, unless one is stored. -/
theorem group_connect {r : Registry} {device : Device} {group : GroupId} :
    (r.connect membership device profile).2.groups.get? address = some group ↔
      r.groups.get? address = some group ∨
        (r.Admits device profile ∧ ¬r.holds profile device.address) ∧ device.address = address ∧
          r.groups.get? address = none ∧ profile ≠ .hearingAid ∧ r.bound.get .leAudio = true ∧
            membership.groupOf address = some group := by
  rcases r.connect_cases membership device profile with
    ⟨-, same, refused⟩ | ⟨-, admits, absent, groups, pairs, form, grouped, -⟩
  · rw [same]
    exact (or_iff_left fun h => refused h.1).symm
  · rw [form]
    change groups.get? address = some group ↔ _
    rw [grouped]
    by_cases here : address = device.address
    · rw [if_pos here, groupFor_eq_some_iff]
      exact or_congr_right ⟨fun h => ⟨⟨admits, absent⟩, here.symm, h⟩, fun h => h.2.2⟩
    · rw [if_neg here]
      exact (or_iff_left fun h => here h.2.1.symm).symm

/-- The set of a device is stored if it was looked up over any profile. -/
theorem group_arrived {group : GroupId} : (arrived membership arrivals).groups.get? address = some group ↔
    (LookedUp membership arrivals .classicHeadset address ∨
      LookedUp membership arrivals .leAudio address) ∧ membership.groupOf address = some group := by
  induction arrivals using List.reverseRecOn generalizing group with
  | nil =>
    refine iff_of_false nofun ?_
    rintro ⟨h | h, -⟩ <;> cases holds_of_lookedUp h
  | append_singleton arrivals a ih =>
    rw [arrived_concat]
    cases a with
    | service other =>
      rw [lookedUp_service, lookedUp_service]
      exact ih
    | device device other =>
      rw [lookedUp_device, lookedUp_device]
      change ((arrived membership arrivals).connect membership device other).2.groups.get? address =
        some group ↔ _
      rw [group_connect, bound_arrived]
      constructor
      · rintro (stored | ⟨taken, here, -, ear, bound, named⟩)
        · obtain ⟨known, named⟩ := ih.mp stored
          exact ⟨known.imp Or.inl Or.inl, named⟩
        · refine ⟨?_, named⟩
          cases other with
          | classicHeadset => exact Or.inl (Or.inr ⟨rfl, here, taken, bound⟩)
          | leAudio => exact Or.inr (Or.inr ⟨rfl, here, taken, bound⟩)
          | hearingAid => exact absurd rfl ear
      · rintro ⟨known, named⟩
        cases stored : (arrived membership arrivals).groups.get? address with
        | some earlier => exact Or.inl ((ih.mp stored).2.symm.trans named)
        | none =>
          have unknown (h : LookedUp membership arrivals .classicHeadset address ∨
              LookedUp membership arrivals .leAudio address) : False :=
            Option.some_ne_none group ((ih.mpr ⟨h, named⟩).symm.trans stored)
          rcases known with (known | ⟨rfl, here, taken, bound⟩) | (known | ⟨rfl, here, taken, bound⟩)
          · exact (unknown (Or.inl known)).elim
          · exact Or.inr ⟨taken, here, rfl, nofun, bound, named⟩
          · exact (unknown (Or.inr known)).elim
          · exact Or.inr ⟨taken, here, rfl, nofun, bound, named⟩

/-- A hearing aid that is taken in has its pair looked up. -/
theorem pair_connect {r : Registry} {device : Device} {pair : PairId}
    (stored : ∀ {pair}, r.pairs.get? address = some pair → membership.pairOf address = some pair) :
    (r.connect membership device profile).2.pairs.get? address = some pair ↔
      r.pairs.get? address = some pair ∨
        (r.Admits device profile ∧ ¬r.holds profile device.address) ∧ device.address = address ∧
          profile = .hearingAid ∧ r.bound.get .hearingAid = true ∧
            membership.pairOf address = some pair := by
  rcases r.connect_cases membership device profile with
    ⟨-, same, refused⟩ | ⟨-, admits, absent, groups, pairs, form, -, paired⟩
  · rw [same]
    exact (or_iff_left fun h => refused h.1).symm
  · rw [form]
    change pairs.get? address = some pair ↔ _
    rw [paired]
    by_cases here : address = device.address
    · have found {pair : PairId} : r.pairFor membership address profile = some pair ↔
          profile = .hearingAid ∧ r.bound.get .hearingAid = true ∧ membership.pairOf address = some pair := by
        unfold pairFor
        rw [Option.ite_none_right_eq_some, and_assoc]
        rfl
      rw [if_pos here, Option.or_eq_some_iff, found]
      constructor
      · rintro (new | ⟨-, old⟩)
        · exact Or.inr ⟨⟨admits, absent⟩, here.symm, new⟩
        · exact Or.inl old
      · rintro (old | ⟨-, -, new⟩)
        · cases new : r.pairFor membership address profile with
          | none => exact Or.inr ⟨rfl, old⟩
          | some other =>
            obtain ⟨aid, bound, -⟩ := found.mp new
            exact Or.inl ⟨aid, bound, stored old⟩
        · exact Or.inl new
    · rw [if_neg here]
      exact (or_iff_left fun h => here h.2.1.symm).symm

/-- The pair of a hearing aid is stored if it was looked up. -/
theorem pair_arrived {pair : PairId} : (arrived membership arrivals).pairs.get? address = some pair ↔
    LookedUp membership arrivals .hearingAid address ∧ membership.pairOf address = some pair := by
  induction arrivals using List.reverseRecOn generalizing pair with
  | nil =>
    refine iff_of_false nofun ?_
    rintro ⟨h, -⟩
    cases holds_of_lookedUp h
  | append_singleton arrivals a ih =>
    rw [arrived_concat]
    cases a with
    | service other =>
      rw [lookedUp_service]
      exact ih
    | device device other =>
      rw [lookedUp_device]
      change ((arrived membership arrivals).connect membership device other).2.pairs.get? address =
        some pair ↔ _
      rw [pair_connect fun old => (ih.mp old).2, ih, bound_arrived]
      constructor
      · rintro (⟨known, named⟩ | ⟨taken, here, rfl, bound, named⟩)
        · exact ⟨Or.inl known, named⟩
        · exact ⟨Or.inr ⟨rfl, here, taken, bound⟩, named⟩
      · rintro ⟨known | ⟨rfl, here, taken, bound⟩, named⟩
        · exact Or.inl ⟨known, named⟩
        · exact Or.inr ⟨taken, here, rfl, bound, named⟩

/-- Some headset is known to be of the set. -/
def HeadsetKnown (membership : SetMembership) (arrivals : List Arrival) (group : GroupId) : Prop :=
  ∃ headset, (arrived membership arrivals).holds .classicHeadset headset = true ∧
    (LookedUp membership arrivals .classicHeadset headset ∨
      (arrived membership arrivals).holds .leAudio headset = true) ∧
    membership.groupOf headset = some group

/-- A device that is connected over LE Audio alone is listed unless a headset is known to be of its set. -/
theorem mem_listed_arrived : address ∈ (arrived membership arrivals).listed ↔
    (arrived membership arrivals).holds .classicHeadset address = true ∨
      (arrived membership arrivals).holds .hearingAid address = true ∨
      (arrived membership arrivals).holds .leAudio address = true ∧
        ∀ group, membership.groupOf address = some group → ¬HeadsetKnown membership arrivals group := by
  rw [mem_listed]
  refine or_congr_right (or_congr_right (and_congr_right fun held => ?_))
  have own {group : GroupId} : (arrived membership arrivals).groups.get? address = some group ↔
      membership.groupOf address = some group := by
    rw [group_arrived, lookedUp_leAudio]
    exact and_iff_right (Or.inr held)
  simp only [own, group_arrived, lookedUp_leAudio]
  constructor
  · rintro unknown group named ⟨headset, heldToo, known, same⟩
    exact unknown ⟨headset, group, heldToo, ⟨known, same⟩, named⟩
  · rintro unknown ⟨headset, group, heldToo, ⟨known, same⟩, named⟩
    exact unknown group named ⟨headset, heldToo, known, same⟩

theorem mem_listed_of_alone {group : GroupId}
    (le : (arrived membership arrivals).holds .leAudio address = true)
    (noHeadset : (arrived membership arrivals).holds .classicHeadset address = false)
    (noAid : (arrived membership arrivals).holds .hearingAid address = false)
    (named : membership.groupOf address = some group) :
    address ∈ (arrived membership arrivals).listed ↔ ¬HeadsetKnown membership arrivals group := by
  rw [mem_listed_arrived, le, noHeadset, noAid, named]
  simp

/-- A hearing aid counts as its pair if that was looked up. -/
theorem accessory_arrived {key : SetKey} (h : address ∈ (arrived membership arrivals).hearingAids) :
    (arrived membership arrivals).accessory address = .inl key ↔ ∃ pair, key = .pair pair ∧
      LookedUp membership arrivals .hearingAid address ∧ membership.pairOf address = some pair := by
  obtain ⟨held, unheld⟩ := mem_hearingAids.mp h
  rw [accessory_eq_inl, setKey_eq, unheld, held, if_neg Bool.false_ne_true, if_pos rfl,
    Option.map_eq_some_iff]
  simp only [pair_arrived, eq_comm (a := key)]
  exact exists_congr fun pair => and_comm

section
variable {arrivals' : List Arrival}
  (same : ∀ profile address, (arrived membership arrivals).holds profile address =
    (arrived membership arrivals').holds profile address)
include same

theorem hearingAids_of_same :
    (arrived membership arrivals).hearingAids = (arrived membership arrivals').hearingAids := by
  ext address
  rw [mem_hearingAids, mem_hearingAids, same, same]

/-- Only hearing aids can count differently. -/
theorem accessory_of_same (h : address ∉ (arrived membership arrivals).hearingAids) :
    (arrived membership arrivals).accessory address =
      (arrived membership arrivals').accessory address := by
  apply accessory_of_setKey
  rw [setKey_eq, setKey_eq, ← same, ← same]
  split
  · rename_i held
    have groups : (arrived membership arrivals).groups.get? address =
        (arrived membership arrivals').groups.get? address := by
      ext group
      rw [group_arrived, group_arrived, lookedUp_leAudio, lookedUp_leAudio, ← same]
      simp only [held, or_true]
    rw [groups]
  · rename_i unheld
    split
    · rename_i held
      exact absurd (mem_hearingAids.mpr ⟨held, Bool.eq_false_iff.mpr unheld⟩) h
    · rfl

theorem card_eq_iff
    (listed : ∀ address, address ∈ (arrived membership arrivals).listed ↔
      address ∈ (arrived membership arrivals').listed) :
    ((arrived membership arrivals).listed.map (arrived membership arrivals).accessory).toFinset.card =
        ((arrived membership arrivals').listed.map (arrived membership arrivals').accessory).toFinset.card ↔
      ((arrived membership arrivals).hearingAids.image (arrived membership arrivals).accessory).card =
        ((arrived membership arrivals').hearingAids.image (arrived membership arrivals').accessory).card := by
  have sets : (arrived membership arrivals).listed.toFinset =
      (arrived membership arrivals').listed.toFinset := by
    ext address
    rw [List.mem_toFinset, List.mem_toFinset, listed]
  have aids := hearingAids_of_same same
  have rest : ((arrived membership arrivals).listed.toFinset \
        (arrived membership arrivals).hearingAids).image (arrived membership arrivals).accessory =
      ((arrived membership arrivals').listed.toFinset \
        (arrived membership arrivals').hearingAids).image (arrived membership arrivals').accessory := by
    rw [sets, aids]
    refine Finset.image_congr fun address mem => ?_
    obtain ⟨-, noAid⟩ := Finset.mem_sdiff.mp mem
    exact accessory_of_same same (aids ▸ noAid)
  rw [card_accessories, card_accessories, rest]
  exact Nat.add_right_cancel_iff

/-- The listings differ only in what is connected over LE Audio alone. -/
theorem listed_agree_iff :
    (∀ address, address ∈ (arrived membership arrivals).listed ↔
      address ∈ (arrived membership arrivals').listed) ↔
    ∀ address group, (arrived membership arrivals).holds .leAudio address = true →
      (arrived membership arrivals).holds .classicHeadset address = false →
      (arrived membership arrivals).holds .hearingAid address = false →
      membership.groupOf address = some group →
      (HeadsetKnown membership arrivals group ↔ HeadsetKnown membership arrivals' group) := by
  constructor
  · intro agree address group le noHeadset noAid named
    have alone : address ∈ (arrived membership arrivals).listed ↔
        ¬HeadsetKnown membership arrivals group := mem_listed_of_alone le noHeadset noAid named
    rw [same] at le noHeadset noAid
    have alone' : address ∈ (arrived membership arrivals').listed ↔
        ¬HeadsetKnown membership arrivals' group := mem_listed_of_alone le noHeadset noAid named
    exact not_iff_not.mp (alone.symm.trans ((agree address).trans alone'))
  · intro agree address
    rw [mem_listed_arrived, mem_listed_arrived, ← same, ← same, ← same]
    cases headset : (arrived membership arrivals).holds .classicHeadset address with
    | true => exact iff_of_true (Or.inl rfl) (Or.inl rfl)
    | false =>
      cases aid : (arrived membership arrivals).holds .hearingAid address with
      | true => exact iff_of_true (Or.inr (Or.inl rfl)) (Or.inr (Or.inl rfl))
      | false =>
        refine or_congr_right (or_congr_right (and_congr_right fun le => ?_))
        refine forall_congr' fun group => forall_congr' fun named => not_congr ?_
        exact agree address group le headset aid named

/-- Hearing aids whose pairs were looked up in both histories count the same. -/
theorem image_accessory_of_same (aids : ∀ address,
      LookedUp membership arrivals .hearingAid address ↔ LookedUp membership arrivals' .hearingAid address) :
    (arrived membership arrivals).hearingAids.image (arrived membership arrivals).accessory =
      (arrived membership arrivals').hearingAids.image (arrived membership arrivals').accessory := by
  have hearing := hearingAids_of_same same
  rw [hearing]
  refine Finset.image_congr fun address mem => accessory_ext fun key => ?_
  rw [accessory_arrived (hearing.symm ▸ mem), accessory_arrived mem, aids]

end

end Registry

/-- Two histories of service bindings and device connections that lead to the same connected pairs, with
each device always of the same set. They list the same devices exactly if, for each set of a device that is
connected over LE Audio alone, a headset is known to be of the set in both or in neither; and then they leave
equally many with sets collapsed exactly if equally many hearing aid accessories are told apart, where a
hearing aid counts as its pair if it was taken in with its service bound. In particular the listings agree if
the same headsets and hearing aids were taken in with the services bound that know their sets. -/
theorem listings_agree_iff (membership : SetMembership) (arrivals arrivals' : List Arrival)
    (same : ∀ profile address, (Registry.arrived membership arrivals).holds profile address =
      (Registry.arrived membership arrivals').holds profile address) :
    let r := Registry.arrived membership arrivals
    let r' := Registry.arrived membership arrivals'
    ((∀ address, address ∈ r.listed ↔ address ∈ r'.listed) ↔
      ∀ address group, r.holds .leAudio address = true → r.holds .classicHeadset address = false →
        r.holds .hearingAid address = false → membership.groupOf address = some group →
        (Registry.HeadsetKnown membership arrivals group ↔
          Registry.HeadsetKnown membership arrivals' group)) ∧
    ((∀ address, address ∈ r.listed ↔ address ∈ r'.listed) →
      ∀ activeHearingAids activeLe activeHearingAids' activeLe',
        ((r.uniqueConnected activeHearingAids activeLe).length =
            (r'.uniqueConnected activeHearingAids' activeLe').length ↔
          (r.hearingAids.image r.accessory).card = (r'.hearingAids.image r'.accessory).card)) ∧
    (∀ address ∈ r.hearingAids, ∀ key, r.accessory address = .inl key ↔ ∃ pair, key = .pair pair ∧
      Registry.LookedUp membership arrivals .hearingAid address ∧
        membership.pairOf address = some pair) ∧
    ((∀ address, Registry.LookedUp membership arrivals .classicHeadset address ↔
        Registry.LookedUp membership arrivals' .classicHeadset address) →
      (∀ address, Registry.LookedUp membership arrivals .hearingAid address ↔
        Registry.LookedUp membership arrivals' .hearingAid address) →
      (∀ address, address ∈ r.listed ↔ address ∈ r'.listed) ∧
        ∀ activeHearingAids activeLe activeHearingAids' activeLe',
          (r.uniqueConnected activeHearingAids activeLe).length =
            (r'.uniqueConnected activeHearingAids' activeLe').length) := by
  intro r r'
  have sets := Registry.listed_agree_iff same
  have counts (listed : ∀ address, address ∈ r.listed ↔ address ∈ r'.listed)
      (activeHearingAids activeLe activeHearingAids' activeLe' : List Address) :
      (r.uniqueConnected activeHearingAids activeLe).length =
          (r'.uniqueConnected activeHearingAids' activeLe').length ↔
        (r.hearingAids.image r.accessory).card = (r'.hearingAids.image r'.accessory).card := by
    rw [Registry.length_uniqueConnected, Registry.length_uniqueConnected]
    exact Registry.card_eq_iff same listed
  refine ⟨sets, counts, fun address mem key => Registry.accessory_arrived mem, ?_⟩
  intro headsets aids
  have known (group : GroupId) : Registry.HeadsetKnown membership arrivals group ↔
      Registry.HeadsetKnown membership arrivals' group := by
    unfold Registry.HeadsetKnown
    refine exists_congr fun headset => ?_
    rw [same, same, headsets]
  have listed : ∀ address, address ∈ r.listed ↔ address ∈ r'.listed :=
    sets.mpr fun _ group _ _ _ _ => known group
  have paired := Registry.image_accessory_of_same same aids
  refine ⟨listed, fun activeHearingAids activeLe activeHearingAids' activeLe' => ?_⟩
  rw [counts listed, paired]

/-- A headset that was taken in before the LE Audio service was bound, and connects over LE Audio as well. Its
set is known through that. -/
theorem listings_agree_iff_of_dual_mode :
    let headset : Device := ⟨⟨10, 0, 0, 0, 0, 1⟩, .audioSink⟩
    let member : Device := ⟨⟨10, 0, 0, 0, 0, 2⟩, .audioSink⟩
    let membership : SetMembership := ⟨fun _ => none, fun _ => some ⟨4⟩⟩
    let arrivals : List Arrival := [.service .leAudio, .device headset .classicHeadset,
      .device headset .leAudio, .device member .leAudio]
    let arrivals' : List Arrival := [.device headset .classicHeadset, .service .leAudio,
      .device headset .leAudio, .device member .leAudio]
    let r := Registry.arrived membership arrivals
    let r' := Registry.arrived membership arrivals'
    (∀ profile address, r.holds profile address = r'.holds profile address) ∧
      r.listed = [headset.address] ∧ r'.listed = [headset.address] ∧
      (Registry.HeadsetKnown membership arrivals ⟨4⟩ ↔ Registry.HeadsetKnown membership arrivals' ⟨4⟩) ∧
      (r.uniqueConnected [] []).length = (r'.uniqueConnected [] []).length := by
  intro headset member membership arrivals arrivals' r r'
  have devices : r'.devices = r.devices := by decide
  have same (profile : Profile) (address : Address) :
      r.holds profile address = r'.holds profile address :=
    (Registry.holds_of_devices devices).symm
  have listed : r.listed = [headset.address] := by decide
  have listed' : r'.listed = [headset.address] := by decide
  obtain ⟨sets, counts, -⟩ := listings_agree_iff membership arrivals arrivals' same
  have agree (address : Address) : address ∈ r.listed ↔ address ∈ r'.listed := by rw [listed, listed']
  refine ⟨same, listed, listed', ?_, ?_⟩
  · exact sets.mp agree member.address ⟨4⟩ (by decide) (by decide) (by decide) rfl
  · exact (counts agree [] [] [] []).mpr (by decide)

/-- The same devices connect over the same profiles with the same services bound. A headset and a member of its
set are listed as one or as two, and so are two hearing aids of a pair, as the first of them connects after its
service is bound or before. -/
theorem late_service_splits_set :
    let first : Device := ⟨⟨10, 0, 0, 0, 0, 1⟩, .audioSink⟩
    let second : Device := ⟨⟨10, 0, 0, 0, 0, 2⟩, .audioSink⟩
    let membership : SetMembership := ⟨fun _ => some ⟨77⟩, fun _ => some ⟨4⟩⟩
    let early := Registry.arrived membership [.service .leAudio, .device first .classicHeadset,
      .device second .leAudio]
    let late := Registry.arrived membership [.device first .classicHeadset, .service .leAudio,
      .device second .leAudio]
    let earlyAids := Registry.arrived membership [.service .hearingAid, .device first .hearingAid,
      .device second .hearingAid]
    let lateAids := Registry.arrived membership [.device first .hearingAid, .service .hearingAid,
      .device second .hearingAid]
    early.devices = late.devices ∧ early.bound = late.bound ∧
      early.connected = [first] ∧ late.connected = [first, second] ∧
      earlyAids.devices = lateAids.devices ∧ earlyAids.bound = lateAids.bound ∧
      earlyAids.uniqueConnected [] [] = [first] ∧
      lateAids.uniqueConnected [] [] = [first, second] := by
  decide

end CallAudio

import CallAudio.Proofs.Arises
import CallAudio.Proofs.Listings

/-! The listing of the connected devices. Each profile adds its devices in the order in which they connected,
but for those that something listed stands for already. -/
namespace CallAudio

namespace Registry

variable {r : Registry}

namespace Listing

variable {ds : List Device}

theorem devices_headsets (nodup : (ds.map Device.address).Nodup) :
    ((ds.map (Profile.classicHeadset, ·)).foldl (add r) {}).devices = ds := by
  induction ds using List.reverseRecOn with
  | nil => rfl
  | append_singleton ds d ih =>
    rw [List.map_append, List.map_singleton, List.nodup_append] at nodup
    obtain ⟨earlier, -, apart⟩ := nodup
    simp only [List.map_append, List.map_singleton, List.foldl_append, List.foldl_cons, List.foldl_nil]
    have found := ih earlier
    generalize (ds.map (Profile.classicHeadset, ·)).foldl (add r) {} = listing at found ⊢
    have new : d.address ∉ listing.addresses := by
      unfold addresses
      rw [found]
      exact fun mem => apart d.address mem d.address (List.mem_singleton.mpr rfl) rfl
    rw [add_headset new]
    exact congrArg (· ++ [d]) found

/-- Devices of a profile that has no part in the sets of headsets are added if they are not listed yet, as
far as the profile takes them. The sets are those of the headsets at any time, and as no device comes twice,
what is listed at first tells whether a device is listed. -/
theorem foldl_add (listing : Listing) (profile : Profile) (takes : Device → Prop) [DecidablePred takes]
    (step : ∀ found d, found.headsetGroups = listing.headsetGroups → d.address ∉ found.addresses →
      add r found (profile, d) = if takes d then { found with devices := found.devices ++ [d] } else found)
    (nodup : (ds.map Device.address).Nodup) :
    (ds.map (profile, ·)).foldl (add r) listing = { listing with
      devices := listing.devices ++ ds.filter fun d => d.address ∉ listing.addresses ∧ takes d } := by
  induction ds using List.reverseRecOn with
  | nil => simp
  | append_singleton ds d ih =>
    rw [List.map_append, List.map_singleton, List.nodup_append] at nodup
    obtain ⟨earlier, -, apart⟩ := nodup
    simp only [List.map_append, List.map_singleton, List.foldl_append, List.foldl_cons, List.foldl_nil]
    rw [ih earlier, List.filter_append, List.filter_singleton]
    let added := ds.filter fun d => d.address ∉ listing.addresses ∧ takes d
    let found : Listing := { listing with devices := listing.devices ++ added }
    have known : d.address ∈ found.addresses ↔ d.address ∈ listing.addresses := by
      change d.address ∈ (listing.devices ++ added).map Device.address ↔ _
      rw [List.map_append, List.mem_append]
      refine or_iff_left fun mem => ?_
      have before : d.address ∈ ds.map Device.address :=
        (List.filter_sublist.map Device.address).subset mem
      exact apart d.address before d.address (List.mem_singleton.mpr rfl) rfl
    change add r found (profile, d) = _
    by_cases listed : d.address ∈ listing.addresses
    · rw [add_of_listed profile (known.mpr listed)]
      simp [listed, found, added]
    · rw [step found d rfl fun mem => listed (known.mp mem)]
      by_cases taken : takes d
      · simp [listed, taken, found, added]
      · simp [taken, found, added]

theorem foldl_hearingAids (listing : Listing) (nodup : (ds.map Device.address).Nodup) :
    (ds.map (Profile.hearingAid, ·)).foldl (add r) listing = { listing with
      devices := listing.devices ++ ds.filter fun d => d.address ∉ listing.addresses } := by
  have folded := foldl_add (r := r) listing .hearingAid (fun _ => True)
    (fun found d _ new => (add_hearingAid new).trans (if_pos trivial).symm) nodup
  simpa only [and_true] using folded

theorem foldl_leAudio (listing : Listing) (nodup : (ds.map Device.address).Nodup) :
    (ds.map (Profile.leAudio, ·)).foldl (add r) listing = { listing with
      devices := listing.devices ++ ds.filter fun d => d.address ∉ listing.addresses ∧
        ¬(r.groups.get? d.address).any listing.headsetGroups.contains } := by
  refine foldl_add listing .leAudio _ (fun found d noted new => ?_) nodup
  rw [add_leAudio new, noted, ite_not]

end Listing

/-- The set of the device is known, and some headset is known to be of it. -/
def InHeadsetSet (r : Registry) (address : Address) : Prop :=
  (r.groups.get? address).isSome ∧
    ∃ headset ∈ r.devices.get .classicHeadset, r.groups.get? headset.address = r.groups.get? address

instance (r : Registry) (address : Address) : Decidable (r.InHeadsetSet address) :=
  inferInstanceAs (Decidable (_ ∧ _))

/-- All headsets, then the hearing aids that are no headsets, then the LE Audio devices that are neither and
whose set no headset is of. -/
def representatives (r : Registry) : List Device :=
  let headsets := r.devices.get .classicHeadset
  let hearingAids := r.devices.get .hearingAid
  let leAudio := r.devices.get .leAudio
  headsets ++ (hearingAids.filter fun d => d.address ∉ headsets.map Device.address) ++
    leAudio.filter fun d => d.address ∉ headsets.map Device.address ∧
      d.address ∉ hearingAids.map Device.address ∧ ¬r.InHeadsetSet d.address

theorem inHeadsetSet_iff {address : Address} {groups : List GroupId}
    (noted : ∀ group, group ∈ groups ↔
      ∃ headset ∈ (r.devices.get .classicHeadset).map Device.address, r.groups.get? headset = some group) :
    (r.groups.get? address).any groups.contains ↔ r.InHeadsetSet address := by
  unfold InHeadsetSet
  cases r.groups.get? address with
  | none => simp
  | some group =>
    rw [Option.any_some, List.contains_iff_mem, noted]
    simp

theorem connected_eq_representatives (once : r.Once) : r.connected = r.representatives := by
  let headsets := ((r.devices.get .classicHeadset).map (Profile.classicHeadset, ·)).foldl
    (Listing.add r) {}
  let others := (r.devices.get .hearingAid).filter fun d => d.address ∉ headsets.addresses
  let hearingAids : Listing := { headsets with devices := headsets.devices ++ others }
  have first : headsets.devices = r.devices.get .classicHeadset :=
    Listing.devices_headsets (once .classicHeadset)
  have represented (address : Address) :
      (r.groups.get? address).any hearingAids.headsetGroups.contains ↔ r.InHeadsetSet address :=
    inHeadsetSet_iff (Listing.mem_headsets r (r.devices.get .classicHeadset)).2
  have second : ((r.devices.get .hearingAid).map (Profile.hearingAid, ·)).foldl (Listing.add r) headsets =
      hearingAids := Listing.foldl_hearingAids headsets (once .hearingAid)
  have third := Listing.foldl_leAudio (r := r) hearingAids (once .leAudio)
  have listed (address : Address) : address ∈ hearingAids.addresses ↔
      address ∈ headsets.addresses ∨ address ∈ (r.devices.get .hearingAid).map Device.address := by
    rw [← second]
    exact (Listing.mem_hearingAids headsets (r.devices.get .hearingAid)).1 address
  have addresses : headsets.addresses = (r.devices.get .classicHeadset).map Device.address :=
    congrArg (List.map Device.address) first
  calc r.connected
    _ = (((r.devices.get .leAudio).map (Profile.leAudio, ·)).foldl (Listing.add r) hearingAids).devices := by
      rw [← second]
      unfold connected
      simp only [listingOrder, List.flatMap_cons, List.flatMap_nil, List.append_nil, List.foldl_append]
      rfl
    _ = headsets.devices ++ others ++ (r.devices.get .leAudio).filter fun d =>
        d.address ∉ hearingAids.addresses ∧
          ¬(r.groups.get? d.address).any hearingAids.headsetGroups.contains := by rw [third]
    _ = r.representatives := by
      unfold representatives
      simp only [others, first, addresses, listed, represented, not_or, and_assoc]

/-- What the listing holds. A device that is not listed stands behind a headset of its set that is. -/
structure ListsConnected (r : Registry) : Prop where
  entries : r.connected = r.representatives
  nodup : (r.connected.map Device.address).Nodup
  present : ∀ d ∈ r.connected, ∃ profile, d ∈ r.devices.get profile
  missing : ∀ profile, ∀ d ∈ r.devices.get profile, d.address ∉ r.connected.map Device.address →
    profile = .leAudio ∧ ∃ headset ∈ r.connected, headset ∈ r.devices.get .classicHeadset ∧
      ∃ group, r.groups.get? headset.address = some group ∧ r.groups.get? d.address = some group

theorem Once.listsConnected (once : r.Once) : r.ListsConnected := by
  have entries := connected_eq_representatives once
  refine ⟨entries, r.nodup_listed, fun d mem => ?_, fun profile d mem missing => ?_⟩
  · rw [entries, representatives, List.mem_append, List.mem_append] at mem
    rcases mem with (headset | hearingAid) | leAudio
    · exact ⟨.classicHeadset, headset⟩
    · exact ⟨.hearingAid, List.mem_of_mem_filter hearingAid⟩
    · exact ⟨.leAudio, List.mem_of_mem_filter leAudio⟩
  · have held : r.holds profile d.address := holds_iff_mem.mpr (List.mem_map_of_mem mem)
    have unlisted := missing
    change d.address ∉ r.listed at unlisted
    rw [mem_listed, not_or, not_or, not_and, not_not] at unlisted
    obtain ⟨noHeadset, noHearingAid, represented⟩ := unlisted
    cases profile with
    | classicHeadset => exact absurd held noHeadset
    | hearingAid => exact absurd held noHearingAid
    | leAudio =>
      obtain ⟨_, group, headsetHeld, same, stored⟩ := represented held
      obtain ⟨headset, connected, rfl⟩ := holds_iff.mp headsetHeld
      refine ⟨rfl, headset, ?_, connected, group, same, stored⟩
      rw [entries, representatives]
      exact List.mem_append_left _ (List.mem_append_left _ connected)

end Registry

/-- The listing is the same whatever has gone on: after any operations on the registry, whose lists are in the
order of the connections, and on any phone that arises. -/
theorem connected_lists_representatives (config : RouteConfig) :
    (∀ moves : List RegistryMove,
      let r := ((Engaged.fresh config).run moves).phone.registry
      r.ListsConnected ∧ ∀ profile,
        (r.devices.get profile).map Device.address = (Connections.run {} moves).listed profile) ∧
    ∀ attached (p : Phone), p.Arises config attached → p.registry.ListsConnected := by
  refine ⟨fun moves => ?_, fun attached p arises => arises.once.listsConnected⟩
  have follows : ((Engaged.fresh config).run moves).Follows (Connections.run {} moves) :=
    Engaged.follows_run config moves
  have once : ((Engaged.fresh config).run moves).phone.registry.Once := follows.consistent.once
  exact ⟨once.listsConnected, follows.refines.lists⟩

/-- An earbud that is reported over LE Audio too, its other half, and a speaker of another set. -/
theorem connected_lists_representatives_of_earbuds :
    let left : Device := ⟨⟨10, 0, 0, 0, 0, 1⟩, .audioSink⟩
    let right : Device := ⟨⟨10, 0, 0, 0, 0, 2⟩, .audioSink⟩
    let speaker : Device := ⟨⟨10, 0, 0, 0, 0, 3⟩, .audioSink⟩
    let groups : Table Address GroupId := [(left.address, ⟨7⟩), (right.address, ⟨7⟩), (speaker.address, ⟨8⟩)]
    let moves : List ThreadMove := [.start, .outside (.platform { leAudio := { groups } }),
      .outside (.post (.deviceAdded left .leAudio)), .handle,
      .outside (.post (.deviceAdded right .leAudio)), .handle,
      .outside (.post (.deviceAdded speaker .leAudio)), .handle,
      .outside (.post (.deviceAdded left .classicHeadset)), .handle]
    let p := ((Thread.fresh {} [.leAudio]).run moves).phone
    p.Arises {} [.leAudio] ∧ p.registry.devices.leAudio = [left, right, speaker] ∧
      p.registry.connected = [left, speaker] ∧ p.registry.representatives = [left, speaker] ∧
      p.registry.ListsConnected := by
  intro left right speaker groups moves p
  have arises : p.Arises {} [.leAudio] := .thread moves (by simp [moves])
  exact ⟨arises, by decide, by decide, by decide, (connected_lists_representatives {}).2 _ p arises⟩

end CallAudio

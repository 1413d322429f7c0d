import CallAudio.Proofs.Connections
import Mathlib.Data.Finset.Card
import Mathlib.Data.Finset.Image
import Mathlib.Data.List.Nodup

/-! What the two listings of the registry hold, told from what is connected and what is stored about it. -/
namespace CallAudio.Registry

variable {r : Registry} {address : Address} {group : GroupId}

namespace Listing

def addresses (listing : Listing) : List Address := listing.devices.map Device.address

variable {listing : Listing} {device : Device} {ds : List Device}

theorem mem_addresses_iff :
    (listing.devices.any fun d => d.address = device.address) = true ↔
      device.address ∈ listing.addresses := by
  unfold addresses
  simp only [List.any_eq_true, decide_eq_true_eq, List.mem_map]

/-- A device whose address is listed adds nothing. -/
theorem add_of_listed (profile : Profile) (h : device.address ∈ listing.addresses) :
    add r listing (profile, device) = listing := by
  unfold add
  exact if_pos (mem_addresses_iff.mpr h)

theorem add_headset (h : device.address ∉ listing.addresses) :
    add r listing (.classicHeadset, device) = ⟨listing.devices ++ [device],
      listing.headsetGroups ++ (r.groups.get? device.address).toList⟩ := by
  unfold add
  exact if_neg fun listed => h (mem_addresses_iff.mp listed)

theorem add_hearingAid (h : device.address ∉ listing.addresses) :
    add r listing (.hearingAid, device) = { listing with devices := listing.devices ++ [device] } := by
  unfold add
  exact if_neg fun listed => h (mem_addresses_iff.mp listed)

theorem add_leAudio (h : device.address ∉ listing.addresses) :
    add r listing (.leAudio, device) =
      if (r.groups.get? device.address).any listing.headsetGroups.contains then listing
      else { listing with devices := listing.devices ++ [device] } := by
  unfold add
  exact if_neg fun listed => h (mem_addresses_iff.mp listed)

/-- Each address is listed once. -/
theorem nodup_add (profile : Profile) (h : listing.addresses.Nodup) :
    (add r listing (profile, device)).addresses.Nodup := by
  by_cases listed : device.address ∈ listing.addresses
  · rwa [add_of_listed profile listed]
  · have new : (listing.devices ++ [device]).map Device.address |>.Nodup := by
      rw [List.map_append, List.nodup_append]
      refine ⟨h, List.nodup_singleton _, ?_⟩
      rintro _ mem _ new rfl
      rw [List.map_singleton, List.mem_singleton] at new
      exact listed (new ▸ mem)
    cases profile with
    | classicHeadset =>
      rw [add_headset listed]
      exact new
    | hearingAid =>
      rw [add_hearingAid listed]
      exact new
    | leAudio =>
      rw [add_leAudio listed]
      split
      · exact h
      · exact new

/-- Some headset that is listed stands for the set. -/
def Represents (listing : Listing) (r : Registry) (address : Address) : Prop :=
  ∃ group ∈ listing.headsetGroups, r.groups.get? address = some group

/-- The headsets are all listed, and the sets that are known of them are noted. -/
theorem mem_headsets (r : Registry) (ds : List Device) :
    let listing := (ds.map (Profile.classicHeadset, ·)).foldl (add r) {}
    (∀ address, address ∈ listing.addresses ↔ address ∈ ds.map Device.address) ∧
      ∀ group, group ∈ listing.headsetGroups ↔
        ∃ address ∈ ds.map Device.address, r.groups.get? address = some group := by
  induction ds using List.reverseRecOn with
  | nil => simp [addresses]
  | append_singleton ds d ih =>
    obtain ⟨listed, noted⟩ := ih
    simp only [List.map_append, List.map_singleton, List.foldl_append, List.foldl_cons, List.foldl_nil]
    generalize (ds.map (Profile.classicHeadset, ·)).foldl (add r) {} = listing at listed noted ⊢
    simp only [List.mem_append, List.mem_singleton, or_and_right, exists_or, exists_eq_left]
    by_cases known : d.address ∈ listing.addresses
    · rw [add_of_listed _ known]
      have present : d.address ∈ ds.map Device.address := (listed _).mp known
      refine ⟨fun address => ?_, fun group => ?_⟩
      · rw [listed]
        exact (or_iff_left_of_imp fun same => same ▸ present).symm
      · rw [noted]
        exact (or_iff_left_of_imp fun stored => ⟨d.address, present, stored⟩).symm
    · rw [add_headset known]
      refine ⟨fun address => ?_, fun group => ?_⟩
      · change address ∈ (listing.devices ++ [d]).map Device.address ↔ _
        rw [List.map_append, List.mem_append, List.map_singleton, List.mem_singleton, ← listed]
        rfl
      · rw [List.mem_append, noted, Option.mem_toList]

/-- Hearing aids are added whatever is listed. -/
theorem mem_hearingAids (listing : Listing) (ds : List Device) :
    let all := (ds.map (Profile.hearingAid, ·)).foldl (add r) listing
    (∀ address, address ∈ all.addresses ↔
        address ∈ listing.addresses ∨ address ∈ ds.map Device.address) ∧
      all.headsetGroups = listing.headsetGroups := by
  induction ds using List.reverseRecOn with
  | nil => simp
  | append_singleton ds d ih =>
    obtain ⟨listed, noted⟩ := ih
    simp only [List.map_append, List.map_singleton, List.foldl_append, List.foldl_cons, List.foldl_nil]
    generalize (ds.map (Profile.hearingAid, ·)).foldl (add r) listing = all at listed noted ⊢
    simp only [List.mem_append, List.mem_singleton, ← or_assoc, ← listed]
    by_cases known : d.address ∈ all.addresses
    · rw [add_of_listed _ known]
      exact ⟨fun address => (or_iff_left_of_imp fun same => same ▸ known).symm, noted⟩
    · rw [add_hearingAid known]
      refine ⟨fun address => ?_, noted⟩
      change address ∈ (all.devices ++ [d]).map Device.address ↔ _
      rw [List.map_append, List.mem_append, List.map_singleton, List.mem_singleton]
      rfl

/-- An LE Audio device is added unless a headset stands for its set. -/
theorem mem_leAudio (listing : Listing) (ds : List Device) :
    let all := (ds.map (Profile.leAudio, ·)).foldl (add r) listing
    (∀ address, address ∈ all.addresses ↔ address ∈ listing.addresses ∨
        address ∈ ds.map Device.address ∧ ¬listing.Represents r address) ∧
      all.headsetGroups = listing.headsetGroups := by
  induction ds using List.reverseRecOn with
  | nil => simp
  | append_singleton ds d ih =>
    obtain ⟨listed, noted⟩ := ih
    simp only [List.map_append, List.map_singleton, List.foldl_append, List.foldl_cons, List.foldl_nil]
    generalize (ds.map (Profile.leAudio, ·)).foldl (add r) listing = all at listed noted ⊢
    simp only [List.mem_append, List.mem_singleton, or_and_right, ← or_assoc, ← listed]
    by_cases known : d.address ∈ all.addresses
    · rw [add_of_listed _ known]
      exact ⟨fun address => (or_iff_left_of_imp fun same => same.1 ▸ known).symm, noted⟩
    · have represented : (r.groups.get? d.address).any all.headsetGroups.contains = true ↔
          listing.Represents r d.address := by
        unfold Represents
        rw [noted, Option.any_eq_true]
        simp only [List.contains_iff_mem]
        exact exists_congr fun group => and_comm
      rw [add_leAudio known]
      split
      · rename_i given
        refine ⟨fun address => (or_iff_left ?_).symm, noted⟩
        rintro ⟨rfl, unrepresented⟩
        exact unrepresented (represented.mp given)
      · rename_i kept
        refine ⟨fun address => ?_, noted⟩
        change address ∈ (all.devices ++ [d]).map Device.address ↔ _
        rw [List.map_append, List.mem_append, List.map_singleton, List.mem_singleton]
        refine or_congr_right (and_iff_left_of_imp ?_).symm
        rintro rfl
        exact fun given => kept (represented.mpr given)

theorem nodup_foldl (entries : List (Profile × Device)) (h : listing.addresses.Nodup) :
    (entries.foldl (add r) listing).addresses.Nodup := by
  induction entries generalizing listing with
  | nil => exact h
  | cons entry rest ih => exact ih (nodup_add entry.1 h)

end Listing

/-- The addresses of the connected devices as they are listed. -/
def listed (r : Registry) : List Address := r.connected.map Device.address

theorem nodup_listed (r : Registry) : r.listed.Nodup := by
  have start : (Listing.addresses {}).Nodup := List.nodup_nil
  exact Listing.nodup_foldl _ start

/-- Headsets and hearing aids are all listed; an LE Audio device is unless a headset is known to be of its
set. -/
theorem mem_listed (r : Registry) (address : Address) : address ∈ r.listed ↔
    r.holds .classicHeadset address ∨ r.holds .hearingAid address ∨
      r.holds .leAudio address ∧ ¬∃ headset group, r.holds .classicHeadset headset ∧
        r.groups.get? headset = some group ∧ r.groups.get? address = some group := by
  let headsets := ((r.devices.get .classicHeadset).map (Profile.classicHeadset, ·)).foldl
    (Listing.add r) {}
  let hearingAids := ((r.devices.get .hearingAid).map (Profile.hearingAid, ·)).foldl
    (Listing.add r) headsets
  let all := ((r.devices.get .leAudio).map (Profile.leAudio, ·)).foldl (Listing.add r) hearingAids
  have connected : r.connected = all.devices := by
    unfold connected
    simp only [listingOrder, List.flatMap_cons, List.flatMap_nil, List.append_nil, List.foldl_append]
    rfl
  obtain ⟨first, noted⟩ := Listing.mem_headsets r (r.devices.get .classicHeadset)
  obtain ⟨second, noted'⟩ := Listing.mem_hearingAids (r := r) headsets (r.devices.get .hearingAid)
  obtain ⟨third, -⟩ := Listing.mem_leAudio (r := r) hearingAids (r.devices.get .leAudio)
  have represents : hearingAids.Represents r address ↔
      ∃ headset group, r.holds .classicHeadset headset ∧
        r.groups.get? headset = some group ∧ r.groups.get? address = some group := by
    unfold Listing.Represents
    rw [noted']
    constructor
    · rintro ⟨group, mem, stored⟩
      obtain ⟨headset, held, same⟩ := (noted group).mp mem
      exact ⟨headset, group, holds_iff_mem.mpr held, same, stored⟩
    · rintro ⟨headset, group, held, same, stored⟩
      exact ⟨group, (noted group).mpr ⟨headset, holds_iff_mem.mp held, same⟩, stored⟩
  unfold listed
  rw [connected]
  calc address ∈ all.devices.map Device.address
    _ ↔ address ∈ hearingAids.addresses ∨
        address ∈ (r.devices.get .leAudio).map Device.address ∧ ¬hearingAids.Represents r address :=
      third address
    _ ↔ _ := by
      rw [second, first, represents, holds_iff_mem, holds_iff_mem, holds_iff_mem, or_assoc]

/-- What a device counts as: its set, if that is known, or else itself. -/
def accessory (r : Registry) (address : Address) : SetKey ⊕ Address :=
  match r.setKey address with
  | some key => .inl key
  | none => .inr address

theorem accessory_eq_inl {key : SetKey} : r.accessory address = .inl key ↔ r.setKey address = some key := by
  unfold accessory
  split <;> simp_all

theorem accessory_eq_inr {other : Address} :
    r.accessory address = .inr other ↔ r.setKey address = none ∧ address = other := by
  unfold accessory
  split <;> simp_all

theorem accessory_of_setKey {r' : Registry} (h : r.setKey address = r'.setKey address) :
    r.accessory address = r'.accessory address := by
  unfold accessory
  rw [h]

theorem accessory_ext {r' : Registry}
    (h : ∀ key, r.accessory address = .inl key ↔ r'.accessory address = .inl key) :
    r.accessory address = r'.accessory address := by
  apply accessory_of_setKey
  ext key
  rw [← accessory_eq_inl, ← accessory_eq_inl, h]

/-- One device stands for each accessory, and the places tell which sets are among them. -/
structure Accessories.Counts (found : Accessories) (accessories : Finset (SetKey ⊕ Address)) : Prop where
  length : found.devices.length = accessories.card
  placed : ∀ key, (found.places.get? key).isSome ↔ .inl key ∈ accessories

namespace Accessories.Counts

variable {found : Accessories} {accessories : Finset (SetKey ⊕ Address)}

/-- A device of no set counts as itself. -/
theorem alone (h : found.Counts accessories) (d : Device) (absent : .inr d.address ∉ accessories) :
    Counts { found with devices := found.devices ++ [d] } (insert (.inr d.address) accessories) where
  length := by
    rw [List.length_append, h.length, Finset.card_insert_of_notMem absent]
    rfl
  placed key := by
    rw [h.placed, Finset.mem_insert]
    exact (or_iff_right Sum.inl_ne_inr).symm

/-- The first device of a set stands for it. -/
theorem first (h : found.Counts accessories) (d : Device) {key : SetKey}
    (unplaced : found.places.get? key = none) :
    Counts ⟨found.devices ++ [d], found.places.set key found.devices.length⟩
      (insert (.inl key) accessories) where
  length := by
    have absent : .inl key ∉ accessories := by
      rw [← h.placed, unplaced]
      exact Bool.false_ne_true
    rw [List.length_append, h.length, Finset.card_insert_of_notMem absent]
    rfl
  placed other := by
    change (Table.get? (found.places.set key found.devices.length) other).isSome ↔ _
    rw [Table.get?_set, Finset.mem_insert, Sum.inl.injEq, ← h.placed]
    split <;> simp_all

/-- Another device of a set may take its place. -/
theorem again (h : found.Counts accessories) (d : Device) {key : SetKey} {position : Nat}
    (place : found.places.get? key = some position) (active : Bool) :
    Counts (if active then { found with devices := found.devices.set position d } else found)
      (insert (.inl key) accessories) := by
  have present : .inl key ∈ accessories := (h.placed key).mp (Option.isSome_of_eq_some place)
  rw [Finset.insert_eq_of_mem present]
  cases active with
  | true => exact ⟨List.length_set.trans h.length, h.placed⟩
  | false => exact h

theorem add (h : found.Counts accessories) (r : Registry) (activeHearingAids activeLe : List Address)
    (d : Device) (absent : .inr d.address ∉ accessories) :
    Counts (Accessories.add r activeHearingAids activeLe found d)
      (insert (r.accessory d.address) accessories) := by
  unfold Accessories.add
  cases key : r.setKey d.address with
  | none =>
    rw [accessory_eq_inr.mpr ⟨key, rfl⟩]
    exact h.alone d absent
  | some key' =>
    rw [accessory_eq_inl.mpr key]
    cases place : found.places.get? key' with
    | none =>
      simp only [place]
      exact h.first d place
    | some position =>
      simp only [place]
      exact h.again d place _

end Accessories.Counts

/-- As devices are added, one is found for each accessory. -/
theorem counts_accessories (r : Registry) (activeHearingAids activeLe : List Address) (ds : List Device)
    (nodup : (ds.map Device.address).Nodup) :
    (ds.foldl (Accessories.add r activeHearingAids activeLe) {}).Counts
      ((ds.map Device.address).map r.accessory).toFinset := by
  induction ds using List.reverseRecOn with
  | nil => exact ⟨rfl, fun key => by simp⟩
  | append_singleton ds d ih =>
    rw [List.map_append, List.map_singleton, List.nodup_append] at nodup
    obtain ⟨earlier, -, apart⟩ := nodup
    have grown : (((ds ++ [d]).map Device.address).map r.accessory).toFinset =
        insert (r.accessory d.address) ((ds.map Device.address).map r.accessory).toFinset := by
      simp [Finset.union_comm]
    have absent : .inr d.address ∉ ((ds.map Device.address).map r.accessory).toFinset := by
      intro mem
      obtain ⟨other, mem, same⟩ := List.mem_map.mp (List.mem_toFinset.mp mem)
      exact apart other mem d.address (List.mem_singleton.mpr rfl) (accessory_eq_inr.mp same).2
    rw [List.foldl_append, grown]
    exact (ih earlier).add r activeHearingAids activeLe d absent

/-- With sets collapsed one device is left for each accessory, whichever devices are active. -/
theorem length_uniqueConnected (r : Registry) (activeHearingAids activeLe : List Address) :
    (r.uniqueConnected activeHearingAids activeLe).length =
      (r.listed.map r.accessory).toFinset.card :=
  (r.counts_accessories activeHearingAids activeLe r.connected r.nodup_listed).length

theorem setKey_eq (r : Registry) (address : Address) : r.setKey address =
    if r.holds .leAudio address then (r.groups.get? address).map .group
    else if r.holds .hearingAid address then (r.pairs.get? address).map .pair
    else none := by
  unfold setKey profileOf
  simp only [connectPriority, List.find?_cons, List.find?_nil]
  cases r.holds .leAudio address <;> cases r.holds .hearingAid address <;>
    cases r.holds .classicHeadset address <;> rfl

/-- The devices that are operated as hearing aids. -/
def hearingAids (r : Registry) : Finset Address :=
  ((r.devices.get .hearingAid).map Device.address).toFinset.filter fun a => r.holds .leAudio a = false

theorem mem_hearingAids : address ∈ r.hearingAids ↔
    r.holds .hearingAid address = true ∧ r.holds .leAudio address = false := by
  unfold hearingAids
  rw [Finset.mem_filter, List.mem_toFinset, holds_iff_mem]

/-- Hearing aids count apart from all other devices. -/
theorem card_accessories (r : Registry) : (r.listed.map r.accessory).toFinset.card =
    (r.hearingAids.image r.accessory).card +
      ((r.listed.toFinset \ r.hearingAids).image r.accessory).card := by
  have within : r.hearingAids ⊆ r.listed.toFinset := by
    intro address mem
    rw [List.mem_toFinset, mem_listed]
    exact Or.inr (Or.inl (mem_hearingAids.mp mem).1)
  have apart : Disjoint (r.hearingAids.image r.accessory)
      ((r.listed.toFinset \ r.hearingAids).image r.accessory) := by
    rw [Finset.disjoint_left]
    intro accessory mem mem'
    obtain ⟨address, aid, rfl⟩ := Finset.mem_image.mp mem
    obtain ⟨other, rest, same⟩ := Finset.mem_image.mp mem'
    obtain ⟨-, noAid⟩ := Finset.mem_sdiff.mp rest
    obtain ⟨held, unheld⟩ := mem_hearingAids.mp aid
    have key : r.setKey address = (r.pairs.get? address).map .pair := by
      rw [setKey_eq, unheld, held, if_neg Bool.false_ne_true, if_pos rfl]
    cases found : r.setKey address with
    | none =>
      rw [accessory_eq_inr.mpr ⟨found, rfl⟩] at same
      exact noAid ((accessory_eq_inr.mp same).2 ▸ aid)
    | some set =>
      obtain ⟨pair, -, rfl⟩ := Option.map_eq_some_iff.mp (key.symm.trans found)
      rw [accessory_eq_inl.mpr found, accessory_eq_inl, setKey_eq] at same
      split at same
      · obtain ⟨group, -, he⟩ := Option.map_eq_some_iff.mp same
        cases he
      · rename_i le
        split at same
        · rename_i ear
          exact noAid (mem_hearingAids.mpr ⟨ear, Bool.eq_false_iff.mpr le⟩)
        · cases same
  calc (r.listed.map r.accessory).toFinset.card
    _ = (r.listed.toFinset.image r.accessory).card := by
      congr 1
      ext accessory
      simp
    _ = (r.hearingAids.image r.accessory ∪
          (r.listed.toFinset \ r.hearingAids).image r.accessory).card := by
      rw [← Finset.image_union, Finset.union_sdiff_of_subset within]
    _ = _ := Finset.card_union_of_disjoint apart

end CallAudio.Registry

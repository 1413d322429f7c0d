import CallAudio.Proofs.Listings

/-! The listing of the connected accessories. One device stands for each of them, at the place of the first
that is listed of it: a device that is reported active if there is one, or else the first. -/
namespace CallAudio

namespace Registry

variable {r : Registry} {adapter : Adapter} {ds : List Device} {d e : Device}

/-- The adapter reports the device active over the profile that it is operated through. -/
def ReportedActive (r : Registry) (adapter : Adapter) (d : Device) : Prop :=
  ∃ profile, r.profileOf d.address = some profile ∧ d.address ∈ adapter.active.get profile

theorem setKey_pair {address : Address} {pair : PairId} : r.setKey address = some (.pair pair) ↔
    r.profileOf address = some .hearingAid ∧ r.pairs.get? address = some pair := by
  unfold setKey
  split <;> simp_all

theorem setKey_group {address : Address} {group : GroupId} : r.setKey address = some (.group group) ↔
    r.profileOf address = some .leAudio ∧ r.groups.get? address = some group := by
  unfold setKey
  split <;> simp_all

/-- Different devices are of one accessory if they are operated as hearing aids of one pair, or over LE Audio
and are of one set. -/
def OneAccessory (r : Registry) (a b : Address) : Prop :=
  a = b ∨
    (∃ pair, (r.profileOf a = some .hearingAid ∧ r.pairs.get? a = some pair) ∧
      r.profileOf b = some .hearingAid ∧ r.pairs.get? b = some pair) ∨
    ∃ group, (r.profileOf a = some .leAudio ∧ r.groups.get? a = some group) ∧
      r.profileOf b = some .leAudio ∧ r.groups.get? b = some group

theorem accessory_eq_iff (r : Registry) (a b : Address) :
    r.accessory a = r.accessory b ↔ r.OneAccessory a b := by
  unfold OneAccessory
  simp only [← setKey_pair, ← setKey_group]
  constructor
  · intro same
    cases found : r.setKey a with
    | none =>
      rw [accessory_eq_inr.mpr ⟨found, rfl⟩] at same
      exact Or.inl (accessory_eq_inr.mp same.symm).2.symm
    | some key =>
      rw [accessory_eq_inl.mpr found] at same
      have found' := accessory_eq_inl.mp same.symm
      cases key with
      | pair id => exact Or.inr (Or.inl ⟨id, rfl, found'⟩)
      | group id => exact Or.inr (Or.inr ⟨id, rfl, found'⟩)
  · rintro (rfl | ⟨pair, ha, hb⟩ | ⟨group, ha, hb⟩)
    · rfl
    · rw [accessory_eq_inl.mpr ha, accessory_eq_inl.mpr hb]
    · rw [accessory_eq_inl.mpr ha, accessory_eq_inl.mpr hb]

/-- In a set the list of its own profile tells whether a device is active. -/
theorem reportedActive_iff {key : SetKey} (h : r.setKey d.address = some key) :
    r.ReportedActive adapter d ↔ d.address ∈ match key with
      | .pair _ => adapter.active.get .hearingAid
      | .group _ => adapter.active.get .leAudio := by
  have profile : r.profileOf d.address = some (match key with
      | .pair _ => .hearingAid
      | .group _ => .leAudio) := by
    cases key with
    | pair id => exact (setKey_pair.mp h).1
    | group id => exact (setKey_group.mp h).1
  unfold ReportedActive
  rw [profile]
  cases key <;> simp

/-- The accessories of devices. -/
def accessories (r : Registry) (ds : List Device) : List (SetKey ⊕ Address) :=
  ds.map fun d => r.accessory d.address

theorem accessories_concat (r : Registry) (ds : List Device) (d : Device) :
    r.accessories (ds ++ [d]) = r.accessories ds ++ [r.accessory d.address] := List.map_append

/-- The first device of the same accessory. -/
def firstOf (r : Registry) (ds : List Device) (d : Device) : Option Device :=
  ds.find? fun m => r.accessory m.address = r.accessory d.address

/-- The devices that are the first of their accessory. -/
def firsts (r : Registry) (ds : List Device) : List Device := ds.filter fun d => r.firstOf ds d = some d

theorem firstOf_concat (r : Registry) (ds : List Device) (d e : Device) :
    r.firstOf (ds ++ [e]) d = (r.firstOf ds d).or
      (if r.accessory e.address = r.accessory d.address then some e else none) := by
  unfold firstOf
  rw [List.find?_append, List.find?_singleton]
  simp only [decide_eq_true_eq]

theorem firstOf_eq_none : r.firstOf ds d = none ↔ r.accessory d.address ∉ r.accessories ds := by
  unfold firstOf accessories
  simp [List.find?_eq_none]

theorem firsts_concat (r : Registry) (ds : List Device) (d : Device) :
    r.firsts (ds ++ [d]) = r.firsts ds ++ if r.firstOf (ds ++ [d]) d = some d then [d] else [] := by
  -- An accessory that was met before keeps its first device.
  have before : ds.filter (fun m => r.firstOf (ds ++ [d]) m = some m) = r.firsts ds := by
    apply List.filter_congr
    intro m mem
    have found : r.firstOf ds m ≠ none := fun none =>
      firstOf_eq_none.mp none (List.mem_map.mpr ⟨m, mem, rfl⟩)
    obtain ⟨first, found⟩ := Option.ne_none_iff_exists'.mp found
    rw [firstOf_concat, found, Option.some_or]
  calc r.firsts (ds ++ [d])
    _ = ds.filter (fun m => r.firstOf (ds ++ [d]) m = some m) ++
        [d].filter (fun m => r.firstOf (ds ++ [d]) m = some m) := List.filter_append ds [d]
    _ = _ := by
      rw [before, List.filter_singleton, cond_eq_ite]
      simp only [decide_eq_true_eq]

/-- The first device of its accessory is one of the first devices. -/
theorem firsts_concat_of_new (new : r.accessory d.address ∉ r.accessories ds) :
    r.firsts (ds ++ [d]) = r.firsts ds ++ [d] := by
  have first : r.firstOf (ds ++ [d]) d = some d := by
    rw [firstOf_concat, firstOf_eq_none.mpr new, if_pos rfl, Option.none_or]
  rw [firsts_concat, if_pos first]

theorem firsts_concat_of_known (known : r.accessory d.address ∈ r.accessories ds) (unlisted : d ∉ ds) :
    r.firsts (ds ++ [d]) = r.firsts ds := by
  obtain ⟨first, found⟩ := Option.ne_none_iff_exists'.mp fun none => firstOf_eq_none.mp none known
  have listed : first ∈ ds := List.mem_of_find?_eq_some found
  have other : r.firstOf (ds ++ [d]) d ≠ some d := by
    rw [firstOf_concat, found, Option.some_or]
    exact fun same => unlisted (Option.some.inj same ▸ listed)
  rw [firsts_concat, if_neg other, List.append_nil]

/-- The device stands for its accessory among the devices listed so far. -/
structure StandsFor (r : Registry) (adapter : Adapter) (ds : List Device) (d : Device) : Prop where
  listed : d ∈ ds
  active : (∃ m ∈ ds, r.accessory m.address = r.accessory d.address ∧ r.ReportedActive adapter m) →
    r.ReportedActive adapter d
  first : (∀ m ∈ ds, r.accessory m.address = r.accessory d.address → ¬r.ReportedActive adapter m) →
    r.firstOf ds d = some d

namespace StandsFor

/-- A device that is listed later makes no difference if it is of another accessory, or not active. -/
theorem concat (h : r.StandsFor adapter ds d)
    (spared : r.accessory e.address = r.accessory d.address → ¬r.ReportedActive adapter e) :
    r.StandsFor adapter (ds ++ [e]) d where
  listed := List.mem_append_left _ h.listed
  active := by
    rintro ⟨m, mem, same, active⟩
    rcases List.mem_append.mp mem with mem | mem
    · exact h.active ⟨m, mem, same, active⟩
    · obtain rfl := List.mem_singleton.mp mem
      exact absurd active (spared same)
  first inactive := by
    have first := h.first fun m mem => inactive m (List.mem_append_left _ mem)
    rw [firstOf_concat, first, Option.some_or]

/-- The first device of an accessory stands for it. -/
theorem of_new (new : r.accessory d.address ∉ r.accessories ds) :
    r.StandsFor adapter (ds ++ [d]) d where
  listed := List.mem_append_right _ (List.mem_singleton.mpr rfl)
  active := by
    rintro ⟨m, mem, same, active⟩
    rcases List.mem_append.mp mem with mem | mem
    · exact absurd (List.mem_map.mpr ⟨m, mem, same⟩) new
    · exact List.mem_singleton.mp mem ▸ active
  first _ := by
    rw [firstOf_concat, firstOf_eq_none.mpr new, if_pos rfl, Option.none_or]

/-- A device that is active may stand for its accessory whatever else is of that. -/
theorem of_active (active : r.ReportedActive adapter d) : r.StandsFor adapter (ds ++ [d]) d where
  listed := List.mem_append_right _ (List.mem_singleton.mpr rfl)
  active _ := active
  first inactive :=
    absurd active (inactive d (List.mem_append_right _ (List.mem_singleton.mpr rfl)) rfl)

end StandsFor

/-- What is found among the devices listed so far: one device stands for each accessory, in the order of the
first ones, and the places tell where the sets are. -/
structure Accessories.Collapses (found : Accessories) (r : Registry) (adapter : Adapter)
    (ds : List Device) : Prop where
  ordered : r.accessories found.devices = r.accessories (r.firsts ds)
  apart : (r.accessories found.devices).Nodup
  complete : ∀ accessory, accessory ∈ r.accessories found.devices ↔ accessory ∈ r.accessories ds
  places : ∀ key place, found.places.get? key = some place ↔
    (r.accessories found.devices)[place]? = some (.inl key)
  stands : ∀ d ∈ found.devices, r.StandsFor adapter ds d

namespace Accessories.Collapses

variable {found : Accessories}

/-- The first device of an accessory is added at the end; for a set, its place is noted. -/
theorem append (h : found.Collapses r adapter ds)
    (new : r.accessory d.address ∉ r.accessories ds) {places : Table SetKey Nat}
    (noted : ∀ key place, places.get? key = some place ↔ found.places.get? key = some place ∨
      place = found.devices.length ∧ r.accessory d.address = .inl key) :
    Collapses ⟨found.devices ++ [d], places⟩ r adapter (ds ++ [d]) where
  ordered := by
    rw [firsts_concat_of_new new, accessories_concat, accessories_concat, h.ordered]
  apart := by
    have absent : r.accessory d.address ∉ r.accessories found.devices :=
      fun mem => new ((h.complete _).mp mem)
    rw [accessories_concat, List.nodup_append]
    refine ⟨h.apart, List.nodup_singleton _, fun accessory mem last mem' => ?_⟩
    obtain rfl := List.mem_singleton.mp mem'
    exact fun same => absent (same ▸ mem)
  complete accessory := by
    rw [accessories_concat, accessories_concat, List.mem_append, List.mem_append, h.complete]
  places key place := by
    have length : (r.accessories found.devices).length = found.devices.length := List.length_map _
    rw [noted, h.places, accessories_concat]
    -- Places before the end keep what they have, the end is new, and there is nothing beyond it.
    rcases Nat.lt_trichotomy place found.devices.length with before | rfl | beyond
    · rw [List.getElem?_append_left (by omega)]
      exact or_iff_left fun last => absurd last.1 (by omega)
    · have none : (r.accessories found.devices)[found.devices.length]? = none :=
        List.getElem?_eq_none (by omega)
      rw [none, ← length, List.getElem?_concat_length]
      simp
    · have none : (r.accessories found.devices)[place]? = none := List.getElem?_eq_none (by omega)
      have none' : (r.accessories found.devices ++ [r.accessory d.address])[place]? = Option.none := by
        apply List.getElem?_eq_none
        simp only [List.length_append, List.length_singleton]
        omega
      rw [none, none']
      simp
      omega
  stands e mem := by
    rcases List.mem_append.mp mem with mem | mem
    · have stands := h.stands e mem
      exact stands.concat fun same => absurd (List.mem_map.mpr ⟨e, stands.listed, same.symm⟩) new
    · obtain rfl := List.mem_singleton.mp mem
      exact .of_new new

/-- Another device of a set takes the place of the set if it is active, and is passed over otherwise. -/
theorem again (h : found.Collapses r adapter ds) (unlisted : d ∉ ds) {key : SetKey} {place : Nat}
    (set : r.accessory d.address = .inl key) (placed : found.places.get? key = some place)
    (active : Bool) (told : active = true ↔ r.ReportedActive adapter d) :
    Collapses (if active then { found with devices := found.devices.set place d } else found)
      r adapter (ds ++ [d]) := by
  have there : (r.accessories found.devices)[place]? = some (r.accessory d.address) :=
    ((h.places key place).mp placed).trans (congrArg some set.symm)
  have known : r.accessory d.address ∈ r.accessories ds :=
    (h.complete _).mp (List.mem_of_getElem? there)
  have firsts : r.firsts (ds ++ [d]) = r.firsts ds := firsts_concat_of_known known unlisted
  have complete (accessory : SetKey ⊕ Address) : accessory ∈ r.accessories found.devices ↔
      accessory ∈ r.accessories (ds ++ [d]) := by
    rw [h.complete, accessories_concat, List.mem_append, List.mem_singleton]
    refine (or_iff_left_of_imp ?_).symm
    rintro rfl
    exact known
  cases active with
  | false =>
    have inactive : ¬r.ReportedActive adapter d := fun active => absurd (told.mpr active) nofun
    exact ⟨h.ordered.trans (congrArg r.accessories firsts.symm), h.apart, complete, h.places,
      fun e mem => (h.stands e mem).concat fun _ => inactive⟩
  | true =>
    have active := told.mp rfl
    -- The place keeps its accessory, so all that changes is which device stands there.
    obtain ⟨bound, stood⟩ := List.getElem?_eq_some_iff.mp there
    have same : r.accessories (found.devices.set place d) = r.accessories found.devices := by
      calc r.accessories (found.devices.set place d)
        _ = (r.accessories found.devices).set place (r.accessory d.address) := List.map_set
        _ = r.accessories found.devices := by rw [← stood, List.set_getElem_self]
    have apart : (r.accessories (found.devices.set place d)).Nodup := same ▸ h.apart
    refine ⟨?_, apart, fun accessory => ?_, fun key place => ?_, fun e mem => ?_⟩
    · show r.accessories (found.devices.set place d) = _
      rw [same, firsts, h.ordered]
    · show accessory ∈ r.accessories (found.devices.set place d) ↔ _
      rw [same, complete]
    · show _ ↔ (r.accessories (found.devices.set _ d))[place]? = _
      rw [same]
      exact h.places key place
    · -- Only one device of each accessory is listed, so the one of this set is the new one.
      by_cases ours : r.accessory e.address = r.accessory d.address
      · have here : d ∈ found.devices.set place d := by
          apply List.mem_set
          simpa [accessories] using bound
        obtain rfl : e = d := List.inj_on_of_nodup_map apart mem here ours
        exact .of_active active
      · rcases List.mem_or_eq_of_mem_set mem with stood | rfl
        · exact (h.stands e stood).concat fun same => absurd same.symm ours
        · exact absurd rfl ours

theorem add (h : found.Collapses r adapter ds) (unlisted : d.address ∉ ds.map Device.address) :
    Collapses (Accessories.add r (adapter.active.get .hearingAid) (adapter.active.get .leAudio) found d)
      r adapter (ds ++ [d]) := by
  have other : d ∉ ds := fun mem => unlisted (List.mem_map_of_mem mem)
  unfold Accessories.add
  cases key : r.setKey d.address with
  | none =>
    have alone : r.accessory d.address = .inr d.address := accessory_eq_inr.mpr ⟨key, rfl⟩
    -- A device without a set is an accessory by its address, and no address is listed twice.
    have new : r.accessory d.address ∉ r.accessories ds := by
      rw [alone]
      intro mem
      obtain ⟨m, mem, same⟩ := List.mem_map.mp mem
      exact unlisted (List.mem_map.mpr ⟨m, mem, (accessory_eq_inr.mp same).2⟩)
    refine h.append new fun key place => (or_iff_left ?_).symm
    rw [alone]
    exact fun last => absurd last.2 nofun
  | some set =>
    have ours : r.accessory d.address = .inl set := accessory_eq_inl.mpr key
    cases placed : found.places.get? set with
    | none =>
      -- Had the set been met before, its place would be noted.
      have new : r.accessory d.address ∉ r.accessories ds := by
        rw [ours, ← h.complete]
        intro mem
        obtain ⟨place, there⟩ := List.mem_iff_getElem?.mp mem
        exact absurd (placed.symm.trans ((h.places set place).mpr there)) nofun
      simp only [placed]
      refine h.append new fun key' place => ?_
      rw [Table.get?_set, ours, Sum.inl.injEq]
      split
      · rename_i here
        subst here
        simp [placed, eq_comm]
      · rename_i there
        simp [Ne.symm there]
    | some place =>
      simp only [placed]
      refine h.again other ours placed _ (List.contains_iff_mem.trans ?_)
      refine Iff.trans ?_ (reportedActive_iff key).symm
      cases set <;> exact Iff.rfl

/-- The devices are gone through in the order in which they are listed, each under an address of its own. -/
theorem foldl (nodup : (ds.map Device.address).Nodup) :
    (ds.foldl (Accessories.add r (adapter.active.get .hearingAid) (adapter.active.get .leAudio)) {}).Collapses
      r adapter ds := by
  induction ds using List.reverseRecOn with
  | nil => exact ⟨rfl, List.nodup_nil, fun _ => Iff.rfl, fun _ _ => ⟨nofun, nofun⟩, nofun⟩
  | append_singleton ds d ih =>
    rw [List.map_append, List.map_singleton, List.nodup_append] at nodup
    obtain ⟨before, -, distinct⟩ := nodup
    have unlisted : d.address ∉ ds.map Device.address := fun mem =>
      distinct d.address mem d.address (List.mem_singleton.mpr rfl) rfl
    rw [List.foldl_append]
    exact (ih before).add unlisted

end Accessories.Collapses

/-- The listing without repeated accessories. -/
structure ListsAccessories (r : Registry) (adapter : Adapter) (ds : List Device) : Prop where
  ordered : r.accessories ds = r.accessories (r.firsts r.connected)
  apart : (r.accessories ds).Nodup
  complete : ∀ accessory, accessory ∈ r.accessories ds ↔ accessory ∈ r.accessories r.connected
  stands : ∀ d ∈ ds, r.StandsFor adapter r.connected d
  nodup : (ds.map Device.address).Nodup

end Registry

/-- Whatever is connected and whatever the adapter reports, the listing holds one device of each accessory that
is connected, in the order of the first of each; it is one that is reported active if any of the accessory is,
and the first of the accessory otherwise. -/
theorem Phone.lists_accessories (p : Phone) :
    (∀ a b, p.registry.accessory a = p.registry.accessory b ↔ p.registry.OneAccessory a b) ∧
      p.registry.ListsAccessories p.platform.adapter p.uniqueConnected := by
  have collapses : Registry.Accessories.Collapses _ p.registry p.platform.adapter p.registry.connected :=
    .foldl (Registry.nodup_listed p.registry)
  refine ⟨p.registry.accessory_eq_iff, collapses.ordered, collapses.apart, collapses.complete,
    collapses.stands, ?_⟩
  -- Devices of one address would be of one accessory.
  have apart : (p.uniqueConnected.map fun d => p.registry.accessory d.address).Nodup := collapses.apart
  refine List.Nodup.of_map p.registry.accessory ?_
  rwa [List.map_map]

end CallAudio

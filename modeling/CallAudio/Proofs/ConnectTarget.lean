import CallAudio.Proofs.Listings

/-! The device that a connect goes to. It is the first of all candidates that is connected, and as the
listing is empty only if nothing is connected, there is one whenever there is any device. -/
namespace CallAudio.Registry

/-- All that a connect may go to, the most wanted first. What is requested, cached as active or remembered
as used need not be connected. -/
def candidates (r : Registry) (requested : Option Address) (recent : List Address) : List Address :=
  requested.toList ++
    ([.classicHeadset, .hearingAid, .leAudio].filterMap r.active.get ++
      (recent.reverse ++
        ((r.connected.filter fun d => d.kind ≠ .wearable).map Device.address ++
          r.connected.map Device.address)))

variable {r : Registry} {requested : Option Address} {recent : List Address} {address : Address}

/-- A listed device is connected, so the first of any selection of them is taken. -/
theorem find_listed (selected : Device → Bool) :
    ((r.connected.filter selected).map Device.address).find? r.isConnected =
      (r.connected.find? selected).map Device.address := by
  have connected : ∀ a ∈ (r.connected.filter selected).map Device.address, r.isConnected a := by
    intro a mem
    obtain ⟨d, listed, rfl⟩ := List.mem_map.mp mem
    exact mem_connected (List.mem_of_mem_filter listed)
  calc ((r.connected.filter selected).map Device.address).find? r.isConnected
    _ = ((r.connected.filter selected).map Device.address).head? := by
      cases shown : (r.connected.filter selected).map Device.address with
      | nil => rfl
      | cons first rest =>
        rw [shown] at connected
        exact List.find?_cons_of_pos (connected first List.mem_cons_self)
    _ = (r.connected.find? selected).map Device.address := by
      rw [List.head?_map, List.head?_filter]

theorem connectTarget_eq_find (r : Registry) (requested : Option Address) (recent : List Address) :
    r.connectTarget requested recent = (r.candidates requested recent).find? r.isConnected := by
  have asked : requested.filter r.isConnected = requested.toList.find? r.isConnected := by
    cases requested with
    | none => rfl
    | some address => exact List.find?_singleton.symm
  have sinks : (r.connected.find? fun d => !d.isWearable).map Device.address =
      ((r.connected.filter fun d => d.kind ≠ .wearable).map Device.address).find? r.isConnected := by
    rw [find_listed]
    refine congrArg (fun selected => (r.connected.find? selected).map Device.address) ?_
    exact funext fun d => decide_not.symm
  have any : r.connected.head?.map Device.address =
      (r.connected.map Device.address).find? r.isConnected := by
    have all := find_listed (r := r) fun _ => true
    rw [List.filter_true] at all
    rw [all, ← List.head?_filter, List.filter_true]
  unfold connectTarget candidates
  simp only [List.find?_append]
  rw [asked, Option.map_or, sinks, any]
  rfl

/-- The device is connected over some profile. -/
def Present (r : Registry) (address : Address) : Prop :=
  ∃ profile, address ∈ (r.devices.get profile).map Device.address

theorem isConnected_iff_present : r.isConnected address ↔ r.Present address :=
  isConnected_iff.trans (exists_congr fun _ => holds_iff_mem)

theorem not_present_of_empty (h : ∀ profile, r.devices.get profile = []) : ¬r.Present address := by
  rintro ⟨profile, mem⟩
  rw [h profile] at mem
  cases mem

/-- What the listing hides it hides behind a headset that is listed, so it is empty only if nothing is
connected. -/
theorem listed_eq_nil_iff : r.listed = [] ↔ ∀ profile, r.devices.get profile = [] := by
  constructor
  · intro none
    have unlisted (address : Address) : address ∉ r.listed := none ▸ List.not_mem_nil
    have noHeadset (address : Address) : ¬r.holds .classicHeadset address := fun held =>
      unlisted address ((r.mem_listed address).mpr (Or.inl held))
    have noHearingAid (address : Address) : ¬r.holds .hearingAid address := fun held =>
      unlisted address ((r.mem_listed address).mpr (Or.inr (Or.inl held)))
    have noLeAudio (address : Address) : ¬r.holds .leAudio address := by
      intro held
      refine unlisted address ((r.mem_listed address).mpr (Or.inr (Or.inr ⟨held, ?_⟩)))
      rintro ⟨headset, group, headsetHeld, -⟩
      exact noHeadset headset headsetHeld
    intro profile
    rw [devices_eq_nil_iff]
    cases profile
    · exact noHeadset
    · exact noHearingAid
    · exact noLeAudio
  · intro empty
    refine List.eq_nil_iff_forall_not_mem.mpr fun address mem => ?_
    obtain ⟨d, shown, rfl⟩ := List.mem_map.mp mem
    exact not_present_of_empty empty (isConnected_iff_present.mp (mem_connected shown))

theorem connectTarget_eq_none_iff :
    r.connectTarget requested recent = none ↔ ∀ profile, r.devices.get profile = [] := by
  rw [connectTarget_eq_find, List.find?_eq_none]
  constructor
  · intro none
    refine listed_eq_nil_iff.mp (List.eq_nil_iff_forall_not_mem.mpr fun address mem => ?_)
    have candidate : address ∈ r.candidates requested recent := by
      unfold candidates
      exact List.mem_append_right _ (List.mem_append_right _ (List.mem_append_right _
        (List.mem_append_right _ mem)))
    obtain ⟨d, shown, rfl⟩ := List.mem_map.mp mem
    exact none d.address candidate (mem_connected shown)
  · intro empty address _ connected
    exact not_present_of_empty empty (isConnected_iff_present.mp connected)

/-- A connect goes to the first candidate that is connected over some profile, and to none only if there
is no device at all. -/
theorem connectTarget_first_present (r : Registry) (requested : Option Address) (recent : List Address) :
    (∀ address, r.connectTarget requested recent = some address ↔ r.Present address ∧
      ∃ before after, r.candidates requested recent = before ++ address :: after ∧
        ∀ other ∈ before, ¬r.Present other) ∧
      (r.connectTarget requested recent = none ↔ ∀ profile, r.devices.get profile = []) := by
  refine ⟨fun address => ?_, connectTarget_eq_none_iff⟩
  rw [connectTarget_eq_find, List.find?_eq_some_iff_append, isConnected_iff_present]
  simp only [Bool.not_eq_true', ← Bool.not_eq_true, isConnected_iff_present]

/-- An LE Audio device that gives way to a headset of its set in the listing is still gone to when it was
used last. -/
example :
    let headset : Address := ⟨10, 0, 0, 0, 0, 1⟩
    let member : Address := ⟨10, 0, 0, 0, 0, 2⟩
    let gone : Address := ⟨10, 0, 0, 0, 0, 3⟩
    let r : Registry := {
      devices := ⟨[⟨headset, .wearable⟩], [], [⟨member, .audioSink⟩]⟩
      groups := [(headset, ⟨7⟩), (member, ⟨7⟩)] }
    r.listed = [headset] ∧ r.connectTarget (some gone) [member, gone] = some member ∧
      r.connectTarget (some gone) [gone] = some headset := by
  decide

end CallAudio.Registry

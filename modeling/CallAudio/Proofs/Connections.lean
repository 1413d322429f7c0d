import CallAudio.Proofs.Devices
import Mathlib.Data.List.Induction

/-! The registry as a set of pairs, of a profile and the address of a device that is connected over it. The
pairs alone tell how the registry answers, whatever the services do and whatever audio operations go on; and
nothing is stored about a device that is in no pair. -/
namespace CallAudio

/-- The pairs in the order in which they came, and whether LE Audio devices can be taken in. -/
structure Connections where
  pairs : List (Profile × Address) := []
  leBound : Bool := false

namespace Connections

variable (c : Connections)

def listed (profile : Profile) : List Address :=
  (c.pairs.filter fun pair => pair.1 = profile).map Prod.snd

def admission (profile : Profile) (address : Address) : Except DeviceRefusal Bool :=
  if address = .empty then .error .emptyAddress
  else if profile = .leAudio ∧ c.leBound = false then .error (.serviceUnavailable profile)
  else .ok (decide ((profile, address) ∉ c.pairs))

/-- The reply to an operation of the registry, where the pairs tell it. -/
def reply? : Bench.RegistryAct → Option Bench.Reply
  | .detach profile => some (.addresses (c.listed profile))
  | .connect profile device => some (.admission (c.admission profile device.address))
  | .disconnect address profile => some (.flag (decide ((profile, address) ∈ c.pairs)))
  | .isConnected address => some (.flag (c.pairs.any fun pair => pair.2 = address))
  | .profileOf address =>
    some (.profile (Registry.connectPriority.find? fun profile => (profile, address) ∈ c.pairs))
  | _ => none

/-- The pairs after an operation of the registry. -/
def after : Bench.RegistryAct → Connections
  | .attach profile => { c with leBound := c.leBound || profile = .leAudio }
  | .detach profile => { c with leBound := c.leBound && profile ≠ .leAudio }
  | .connect profile device =>
    match c.admission profile device.address with
    | .ok true => { c with pairs := c.pairs ++ [(profile, device.address)] }
    | _ => c
  | .disconnect address profile => { c with pairs := c.pairs.filter (· ≠ (profile, address)) }
  | _ => c

variable {c} {profile profile' : Profile} {address : Address}

theorem mem_listed : address ∈ c.listed profile ↔ (profile, address) ∈ c.pairs := by
  unfold listed
  simp only [List.mem_map, List.mem_filter, decide_eq_true_eq]
  constructor
  · rintro ⟨⟨profile, address⟩, ⟨mem, rfl⟩, rfl⟩
    exact mem
  · intro mem
    exact ⟨(profile, address), ⟨mem, rfl⟩, rfl⟩

theorem admission_eq_ok_true_iff : c.admission profile address = .ok true ↔
    address ≠ .empty ∧ (profile = .leAudio → c.leBound = true) ∧ (profile, address) ∉ c.pairs := by
  unfold admission
  by_cases empty : address = .empty
  · simp [empty]
  · by_cases unbound : profile = .leAudio ∧ c.leBound = false
    · simp [empty, unbound.1, unbound.2]
    · have bound : profile = .leAudio → c.leBound = true := by
        intro le
        exact eq_true_of_ne_false fun h => unbound ⟨le, h⟩
      rw [if_neg empty, if_neg unbound, Except.ok.injEq, decide_eq_true_eq]
      exact ⟨fun absent => ⟨empty, bound, absent⟩, fun h => h.2.2⟩

theorem listed_append :
    listed { c with pairs := c.pairs ++ [(profile, address)] } profile' =
      if profile' = profile then c.listed profile' ++ [address] else c.listed profile' := by
  unfold listed
  rw [List.filter_append, List.map_append]
  by_cases same : profile' = profile
  · subst same
    simp
  · simp [same, Ne.symm same]

theorem listed_filter :
    listed { c with pairs := c.pairs.filter (· ≠ (profile, address)) } profile' =
      if profile' = profile then (c.listed profile').filter (· ≠ address) else c.listed profile' := by
  unfold listed
  dsimp only
  rw [List.filter_filter]
  split
  · rename_i same
    subst same
    rw [List.filter_map, List.filter_filter]
    refine congrArg _ (List.filter_congr ?_)
    rintro ⟨profile, other⟩ -
    grind
  · rename_i other
    refine congrArg _ (List.filter_congr ?_)
    rintro ⟨profile, other⟩ -
    grind

end Connections

namespace Registry

/-- The devices of each profile are those of the pairs, in the same order. -/
structure Refines (r : Registry) (c : Connections) : Prop where
  lists : ∀ profile, (r.devices.get profile).map Device.address = c.listed profile
  bound : r.bound.leAudio = c.leBound

/-- No profile lists a device twice or without an address, and nothing is stored about a device that is not
connected. -/
structure Consistent (r : Registry) : Prop where
  once : ∀ profile, ((r.devices.get profile).map Device.address).Nodup
  named : ∀ profile, ∀ device ∈ r.devices.get profile, device.address ≠ .empty
  group : ∀ address group, r.groups.get? address = some group → r.isConnected address
  pair : ∀ address pair, r.pairs.get? address = some pair → r.isConnected address
  communication : ∀ address kind, r.communication = some (address, kind) → r.isConnected address

/-- No profile lists a device twice. -/
def Once (r : Registry) : Prop := ∀ profile, ((r.devices.get profile).map Device.address).Nodup

/-- Only the communication device may change, and only to none or to a connected device. -/
def Recalls (r r' : Registry) : Prop :=
  ∃ communication, r' = { r with communication } ∧
    ∀ found, communication = some found → r.communication = some found ∨ r.isConnected found.1

variable {r r' : Registry} {c : Connections} {profile : Profile} {address : Address}

theorem holds_iff_mem : r.holds profile address ↔ address ∈ (r.devices.get profile).map Device.address := by
  rw [holds_iff, List.mem_map]

theorem Refines.holds_iff (h : r.Refines c) : r.holds profile address ↔ (profile, address) ∈ c.pairs := by
  rw [holds_iff_mem, h.lists, Connections.mem_listed]

theorem Refines.isConnected_iff (h : r.Refines c) :
    r.isConnected address ↔ ∃ profile, (profile, address) ∈ c.pairs := by
  rw [Registry.isConnected_iff]
  exact exists_congr fun profile => h.holds_iff

theorem Refines.of_devices (h : r.Refines c) (devices : r'.devices = r.devices)
    (bound : r'.bound = r.bound) : r'.Refines c := by
  refine ⟨fun profile => ?_, ?_⟩
  · rw [devices]
    exact h.lists profile
  · rw [bound]
    exact h.bound

/-- A device is taken in, with what is then stored about it, or nothing is changed. -/
theorem connect_cases (r : Registry) (membership : SetMembership) (device : Device) (profile : Profile) :
    ((r.connect membership device profile).1 ≠ .ok true ∧ (r.connect membership device profile).2 = r ∧
      ¬(r.Admits device profile ∧ ¬r.holds profile device.address)) ∨
    ((r.connect membership device profile).1 = .ok true ∧
      r.Admits device profile ∧ ¬r.holds profile device.address ∧
      ∃ groups pairs, (r.connect membership device profile).2 =
          { r with devices := r.devices.set profile (r.devices.get profile ++ [device]), groups, pairs } ∧
        (∀ a, groups.get? a = if a = device.address then r.groupFor membership a profile
          else r.groups.get? a) ∧
        ∀ a, pairs.get? a = if a = device.address then (r.pairFor membership a profile).or (r.pairs.get? a)
          else r.pairs.get? a) := by
  unfold connect
  dsimp only
  split
  · rename_i empty
    exact Or.inl ⟨(fun h => by cases h), rfl, fun h => h.1.1 empty⟩
  split
  · rename_i unbound
    refine Or.inl ⟨(fun h => by cases h), rfl, fun h => ?_⟩
    exact Bool.false_ne_true (unbound.2.symm.trans (h.1.2 unbound.1))
  split
  · rename_i held
    exact Or.inl ⟨(fun h => by cases h), rfl, fun h => h.2 held⟩
  · rename_i named bound absent
    refine Or.inr ⟨rfl, ⟨named, fun le => by simpa [le] using bound⟩, absent, _, _, rfl, ?_, ?_⟩
    · intro a
      split
      · rename_i group found
        rw [Table.get?_set]
        split
        · rename_i same
          rw [same, found]
        · rfl
      · rename_i none
        split
        · rename_i same
          rw [same, none]
          -- Nothing is found for the device, so nothing was stored either.
          unfold groupFor at none
          split at none
          · cases none
          · assumption
        · rfl
    · intro a
      split
      · rename_i pair found
        rw [Table.get?_set]
        split
        · rename_i same
          rw [same, found]
          rfl
        · rfl
      · rename_i none
        split
        · rename_i same
          rw [same, none]
          rfl
        · rfl

theorem Refines.admission (h : r.Refines c) (membership : SetMembership) (device : Device)
    (profile : Profile) :
    (r.connect membership device profile).1 = c.admission profile device.address := by
  have held : r.holds profile device.address ↔ (profile, device.address) ∈ c.pairs := h.holds_iff
  unfold connect Connections.admission
  rw [← h.bound]
  dsimp only
  split
  · rfl
  split
  · rfl
  split
  · rename_i present
    rw [decide_eq_false (not_not_intro (held.mp present))]
  · rename_i absent
    have new : (profile, device.address) ∉ c.pairs := fun mem => absent (held.mpr mem)
    rw [decide_eq_true new]

theorem Refines.connect (h : r.Refines c) (membership : SetMembership) (device : Device)
    (profile : Profile) :
    (r.connect membership device profile).2.Refines (c.after (.connect profile device)) := by
  have answer := h.admission membership device profile
  unfold Connections.after
  dsimp only
  rcases r.connect_cases membership device profile with ⟨refused, same, -⟩ | ⟨taken, -, -, _, _, form, -⟩
  · rw [answer] at refused
    rw [same]
    split
    · rename_i ok
      exact absurd ok refused
    · exact h
  · rw [answer] at taken
    simp only [taken]
    rw [form]
    refine ⟨fun other => ?_, h.bound⟩
    rw [Connections.listed_append, PerProfile.get_set, ← h.lists]
    split
    · rename_i same
      rw [same, List.map_append]
      rfl
    · rfl

theorem disconnect_fst : (r.disconnect address profile).1 = r.holds profile address := by
  unfold disconnect
  split
  · rename_i held
    exact held.symm
  · rename_i held
    exact (Bool.eq_false_iff.mpr held).symm

theorem devices_disconnect (profile' : Profile) :
    (r.disconnect address profile).2.devices.get profile' =
      if profile' = profile then (r.devices.get profile').filter fun d => d.address ≠ address
      else r.devices.get profile' := by
  unfold disconnect
  split
  · dsimp only
    rw [apply_ite Registry.devices]
    change PerProfile.get (ite _ _ (r.devices.set profile _)) profile' = _
    rw [ite_self, PerProfile.get_set]
    split
    · rename_i same
      rw [same]
    · rfl
  · rename_i absent
    split
    · rename_i same
      subst same
      refine (List.filter_eq_self.mpr fun d mem => ?_).symm
      exact decide_eq_true fun he => absent (holds_iff.mpr ⟨d, mem, he⟩)
    · rfl

theorem Refines.disconnect (h : r.Refines c) (address : Address) (profile : Profile) :
    (r.disconnect address profile).2.Refines (c.after (.disconnect address profile)) := by
  obtain ⟨_, _, _, _, _, form, -⟩ := r.disconnect_eq address profile
  refine ⟨fun other => ?_, ?_⟩
  · change _ = Connections.listed { c with pairs := c.pairs.filter (· ≠ (profile, address)) } other
    rw [devices_disconnect, Connections.listed_filter, ← h.lists]
    split
    · rw [List.filter_map]
      rfl
    · rfl
  · rw [form]
    exact h.bound

theorem Once.of_devices (h : r.Once) (devices : r'.devices = r.devices) : r'.Once := by
  unfold Once
  rw [devices]
  exact h

theorem Once.connect (h : r.Once) (membership : SetMembership) (device : Device) (profile : Profile) :
    (r.connect membership device profile).2.Once := by
  rcases r.connect_cases membership device profile with ⟨-, same, -⟩ | ⟨-, -, absent, _, _, form, -⟩
  · rwa [same]
  · rw [form]
    intro other
    rw [PerProfile.get_set]
    split
    · rw [List.map_append, List.nodup_append]
      refine ⟨h profile, List.nodup_singleton _, ?_⟩
      rintro _ mem _ new rfl
      rw [List.map_singleton, List.mem_singleton] at new
      exact absent (holds_iff_mem.mpr (new ▸ mem))
    · exact h other

theorem devices_disconnect_sublist (address : Address) (profile other : Profile) :
    ((r.disconnect address profile).2.devices.get other).Sublist (r.devices.get other) := by
  rw [devices_disconnect]
  split
  · exact List.filter_sublist
  · exact .refl _

theorem Once.disconnect (h : r.Once) (address : Address) (profile : Profile) :
    (r.disconnect address profile).2.Once := fun other =>
  (h other).sublist ((devices_disconnect_sublist address profile other).map _)

theorem Consistent.of_eq (h : r.Consistent) (devices : r'.devices = r.devices)
    (groups : r'.groups = r.groups) (pairs : r'.pairs = r.pairs)
    (communication : ∀ address kind, r'.communication = some (address, kind) → r.isConnected address) :
    r'.Consistent := by
  have connected {address : Address} (hc : r.isConnected address) : r'.isConnected address :=
    isConnected_of_holds (fun profile held => holds_of_devices devices ▸ held) hc
  refine ⟨?_, ?_, ?_, ?_, ?_⟩
  · rw [devices]
    exact h.once
  · rw [devices]
    exact h.named
  · rw [groups]
    exact fun address group stored => connected (h.group address group stored)
  · rw [pairs]
    exact fun address pair stored => connected (h.pair address pair stored)
  · exact fun address kind stored => connected (communication address kind stored)

theorem Consistent.recalls (h : r.Consistent) (hr : r.Recalls r') : r'.Consistent := by
  obtain ⟨communication, rfl, known⟩ := hr
  refine h.of_eq rfl rfl rfl ?_
  intro address kind stored
  rcases known _ stored with before | connected
  · exact h.communication address kind before
  · exact connected

theorem Consistent.connect (h : r.Consistent) (membership : SetMembership) (device : Device)
    (profile : Profile) : (r.connect membership device profile).2.Consistent := by
  have stays {a : Address} (hc : r.isConnected a) :
      (r.connect membership device profile).2.isConnected a :=
    isConnected_of_holds (fun p held => (holds_connect membership device).mpr (Or.inl held)) hc
  have comes (admits : r.Admits device profile) :
      (r.connect membership device profile).2.isConnected device.address :=
    isConnected_iff.mpr ⟨profile, (holds_connect membership device).mpr (Or.inr ⟨⟨rfl, rfl⟩, admits⟩)⟩
  have once : (r.connect membership device profile).2.Once := Once.connect h.once membership device profile
  rcases r.connect_cases membership device profile with
    ⟨-, same, -⟩ | ⟨-, admits, -, groups, pairs, form, grouped, paired⟩
  · rwa [same]
  · have connected := comes admits
    rw [form] at stays connected once ⊢
    refine ⟨once, ?_, ?_, ?_, ?_⟩
    · intro other
      rw [PerProfile.get_set]
      split
      · intro d mem
        rcases List.mem_append.mp mem with mem | new
        · exact h.named profile d mem
        · exact List.mem_singleton.mp new ▸ admits.1
      · exact h.named other
    · intro a group stored
      change groups.get? a = some group at stored
      rw [grouped] at stored
      split at stored
      · rename_i same
        exact same ▸ connected
      · exact stays (h.group a group stored)
    · intro a pair stored
      change pairs.get? a = some pair at stored
      rw [paired] at stored
      split at stored
      · rename_i same
        exact same ▸ connected
      · exact stays (h.pair a pair stored)
    · exact fun a kind stored => stays (h.communication a kind stored)

/-- A device that is connected over another profile keeps what is stored about it; otherwise that is
forgotten. -/
theorem stored_disconnect (r : Registry) (address : Address) (profile : Profile) :
    let r' := (r.disconnect address profile).2
    (r'.groups = r.groups ∧ r'.pairs = r.pairs ∧ r'.communication = r.communication ∧
      (r.isConnected address → r'.isConnected address)) ∨
    (r'.groups = r.groups.erase address ∧ r'.pairs = r.pairs.erase address ∧
      r'.communication = r.communication.filter fun found => found.1 ≠ address) := by
  rw [disconnect_delisted]
  by_cases held : r.holds profile address
  · rw [if_pos held]
    dsimp only
    split
    · rename_i connected
      exact Or.inl ⟨rfl, rfl, rfl, fun _ => connected⟩
    · exact Or.inr ⟨rfl, rfl, rfl⟩
  · rw [if_neg held]
    exact Or.inl ⟨rfl, rfl, rfl, id⟩

theorem Consistent.disconnect (h : r.Consistent) (address : Address) (profile : Profile) :
    (r.disconnect address profile).2.Consistent := by
  let left := (r.disconnect address profile).2
  have others {a : Address} (ne : a ≠ address) (hc : r.isConnected a) : left.isConnected a :=
    isConnected_of_holds (fun p held => holds_disconnect.mpr ⟨held, fun same => ne same.2⟩) hc
  have once : left.Once := Once.disconnect h.once address profile
  have named (other : Profile) (d : Device) (mem : d ∈ left.devices.get other) : d.address ≠ .empty :=
    h.named other d ((devices_disconnect_sublist address profile other).subset mem)
  rcases r.stored_disconnect address profile with ⟨groups, pairs, communication, kept⟩ |
    ⟨groups, pairs, communication⟩
  · -- The device is connected yet, as all others are that were.
    have stays {a : Address} (hc : r.isConnected a) : left.isConnected a := by
      by_cases same : a = address
      · subst same
        exact kept hc
      · exact others same hc
    refine ⟨once, named, ?_, ?_, ?_⟩
    · rw [groups]
      exact fun a group stored => stays (h.group a group stored)
    · rw [pairs]
      exact fun a pair stored => stays (h.pair a pair stored)
    · rw [communication]
      exact fun a kind stored => stays (h.communication a kind stored)
  · have erased {α : Type} {t : Table Address α} {a : Address} {value : α}
        (stored : (t.erase address).get? a = some value) : a ≠ address ∧ t.get? a = some value := by
      rw [Table.get?_erase] at stored
      split at stored
      · cases stored
      · exact ⟨‹_›, stored⟩
    refine ⟨once, named, ?_, ?_, ?_⟩
    · rw [groups]
      intro a group stored
      obtain ⟨ne, before⟩ := erased stored
      exact others ne (h.group a group before)
    · rw [pairs]
      intro a pair stored
      obtain ⟨ne, before⟩ := erased stored
      exact others ne (h.pair a pair before)
    · rw [communication]
      intro a kind stored
      obtain ⟨before, ne⟩ := Option.filter_eq_some_iff.mp stored
      exact others (of_decide_eq_true ne) (h.communication a kind before)

theorem Recalls.refl (r : Registry) : r.Recalls r := ⟨r.communication, rfl, fun _ => Or.inl⟩

theorem Recalls.of_eq (h : r' = r) : r.Recalls r' := h ▸ .refl r

theorem Recalls.trans {r'' : Registry} (h : r.Recalls r') (h' : r'.Recalls r'') : r.Recalls r'' := by
  obtain ⟨communication, rfl, known⟩ := h
  obtain ⟨communication', rfl, known'⟩ := h'
  refine ⟨communication', rfl, fun found stored => ?_⟩
  exact (known' found stored).elim (known found) Or.inr

theorem Refines.recalls (h : r.Refines c) (hr : r.Recalls r') : r'.Refines c := by
  obtain ⟨communication, rfl, -⟩ := hr
  exact h.of_devices rfl rfl

end Registry

namespace Phone

theorem makeCommunicationDevice_recalls (p : Phone) (address : Address) :
    p.registry.Recalls (p.makeCommunicationDevice address).2.registry := by
  unfold makeCommunicationDevice
  split
  · exact .refl _
  · rename_i profile found
    have connected : p.registry.isConnected address := Option.isSome_of_eq_some found
    dsimp only
    split
    · exact .refl _
    split
    · exact .refl _
    split
    · refine ⟨_, rfl, ?_⟩
      rintro _ ⟨⟩
      exact Or.inr connected
    · exact .refl _

theorem releaseCommunicationDevice_recalls (p : Phone) :
    p.registry.Recalls p.releaseCommunicationDevice.registry := by
  obtain ⟨platform, h | ⟨address, h⟩⟩ := p.releaseCommunicationDevice_eq
  · rw [h]
    exact ⟨none, rfl, nofun⟩
  · rw [h, post_eq]
    exact ⟨none, rfl, nofun⟩

end Phone

/-- An audio operation has no part in what the registry holds but the communication device. -/
theorem Touch.recalls {p q : Phone} (h : Touch [.services] p q) : p.registry.Recalls q.registry := by
  have absent {concern : Concern} (mem : concern ∈ [Concern.services]) : concern = .services :=
    List.mem_singleton.mp mem
  cases h with
  | made address => exact p.makeCommunicationDevice_recalls address
  | released => exact p.releaseCommunicationDevice_recalls
  | posted message =>
    rw [Phone.post_eq]
    exact .refl _
  | tracked f => exact .of_eq (Phone.registry_of_services (p.services_track f))
  | deadlineDropped => exact .of_eq (Phone.registry_of_services p.services_dropDeadline)
  | recorded | noted | answered | requested | asked => exact .refl _
  | _ =>
    rename_i mem
    cases absent mem

/-- Work that does nothing but audio operations, wherever it is resumed. -/
def Work.Serves : Work Unit → Prop
  | .finished _ => True
  | .waiting _ resume => ∀ attached r, (resume attached r).Does [.services] r

theorem Work.serves_ofStep {p : Phone} {s : Step Unit} (h : s.Does [.services] p) :
    (ofStep s).1.Serves ∧ p.registry.Recalls (ofStep s).2.registry := by
  have recalled {q : Phone} (touches : Touches [.services] p q) : p.registry.Recalls q.registry :=
    touches.keeps (P := fun q => p.registry.Recalls q.registry)
      (fun _ _ touch way => way.trans touch.recalls) (.refl _)
  cases s with
  | done value q => exact ⟨trivial, recalled h⟩
  | wait q resume => exact ⟨h.2, recalled h.1⟩

/-- A phone, and the audio operations that have begun on it. -/
structure Engaged where
  phone : Phone
  works : List (Work Unit)

/-- What is done with the registry, and what goes on around it: audio operations begin and go on in any
order, the services change at will, and time passes. -/
inductive RegistryMove where
  | act (act : Bench.RegistryAct)
  | connectAudio (address : Address) (switching : Bool)
  | disconnectAudio
  | resume (n : Nat)
  | platform (platform : Platform)
  | pass (span : Nat)

namespace Engaged

def fresh (config : RouteConfig) : Engaged := ⟨.start config [], []⟩

def begin (e : Engaged) (job : Job Unit) : Engaged :=
  let w := Work.ofStep (job e.phone)
  ⟨w.2, e.works ++ [w.1]⟩

def resume (e : Engaged) (n : Nat) : Engaged :=
  match e.works[n]? with
  | none => e
  | some work =>
    match work.resume? e.phone with
    | none => e
    | some (work', phone) => ⟨phone, e.works.set n work'⟩

def move (e : Engaged) : RegistryMove → Engaged
  | .act act => { e with phone := (act.run e.phone).2 }
  | .connectAudio address switching => e.begin do let _ ← Phone.connectAudio address switching
  | .disconnectAudio => e.begin Phone.disconnectAudio
  | .resume n => e.resume n
  | .platform platform => { e with phone := { e.phone with platform } }
  | .pass span => { e with phone := { e.phone with now := e.phone.now + span } }

def run (e : Engaged) (moves : List RegistryMove) : Engaged := moves.foldl move e

end Engaged

namespace Connections

/-- Only the operations of the registry have to do with the pairs. -/
def move (c : Connections) : RegistryMove → Connections
  | .act act => c.after act
  | _ => c

def run (c : Connections) (moves : List RegistryMove) : Connections := moves.foldl move c

end Connections

/-- The registry of the phone is that of the pairs, and it is consistent; audio operations keep to
themselves. -/
structure Engaged.Follows (e : Engaged) (c : Connections) : Prop where
  refines : e.phone.registry.Refines c
  consistent : e.phone.registry.Consistent
  serves : ∀ work ∈ e.works, work.Serves

namespace Engaged

variable {e : Engaged} {c : Connections}

theorem Follows.begin (h : e.Follows c) {job : Job Unit} (does : job.Does [.services]) :
    (e.begin job).Follows c := by
  obtain ⟨serves, recalls⟩ := Work.serves_ofStep (does e.phone)
  refine ⟨h.refines.recalls recalls, h.consistent.recalls recalls, ?_⟩
  intro work mem
  rcases List.mem_append.mp mem with mem | new
  · exact h.serves work mem
  · exact List.mem_singleton.mp new ▸ serves

theorem Follows.resume (h : e.Follows c) (n : Nat) : (e.resume n).Follows c := by
  unfold Engaged.resume
  split
  · exact h
  · rename_i work found
    split
    · exact h
    · rename_i work' phone resumed
      obtain ⟨deadline, resume, attached, rfl, hw⟩ := Work.resume?_cases resumed
      obtain ⟨rfl, rfl⟩ := Prod.mk.inj hw
      have does := h.serves _ (List.mem_of_getElem? found) attached e.phone
      obtain ⟨serves, recalls⟩ := Work.serves_ofStep does
      refine ⟨h.refines.recalls recalls, h.consistent.recalls recalls, ?_⟩
      intro work mem
      rcases List.mem_or_eq_of_mem_set mem with mem | rfl
      · exact h.serves work mem
      · exact serves

/-- The pairs follow each operation of the registry. -/
theorem Follows.act (h : e.Follows c) (act : Bench.RegistryAct) :
    (e.move (.act act)).Follows (c.after act) := by
  obtain ⟨refines, consistent, serves⟩ := h
  have connected := fun address kind => consistent.communication address kind
  cases act with
  | attach profile =>
    refine ⟨⟨refines.lists, ?_⟩, consistent.of_eq rfl rfl rfl connected, serves⟩
    change (e.phone.registry.bound.set profile true).get .leAudio = (c.leBound || _)
    rw [PerProfile.get_set, ← refines.bound]
    cases profile <;> simp [PerProfile.get]
  | detach profile =>
    refine ⟨⟨refines.lists, ?_⟩, consistent.of_eq rfl rfl rfl connected, serves⟩
    change (e.phone.registry.bound.set profile false).get .leAudio = (c.leBound && _)
    rw [PerProfile.get_set, ← refines.bound]
    cases profile <;> simp [PerProfile.get]
  | connect profile device =>
    exact ⟨refines.connect e.phone.membership device profile,
      consistent.connect e.phone.membership device profile, serves⟩
  | disconnect address profile =>
    exact ⟨refines.disconnect address profile, consistent.disconnect address profile, serves⟩
  | setActive profile address =>
    exact ⟨refines.of_devices rfl rfl, consistent.of_eq rfl rfl rfl connected, serves⟩
  | makeCommunicationDevice address =>
    have recalls := e.phone.makeCommunicationDevice_recalls address
    exact ⟨refines.recalls recalls, consistent.recalls recalls, serves⟩
  | _ => exact ⟨refines, consistent, serves⟩

theorem Follows.move (h : e.Follows c) (m : RegistryMove) : (e.move m).Follows (c.move m) := by
  cases m with
  | act act => exact h.act act
  | connectAudio address switching =>
    apply h.begin
    exact Job.Does.bind (Phone.connectAudio_does (by simp) address switching) fun _ => Job.does_pure ()
  | disconnectAudio => exact h.begin (Phone.disconnectAudio_does (by simp))
  | resume n => exact h.resume n
  | platform | pass => exact ⟨h.refines, h.consistent, h.serves⟩

theorem follows_run (config : RouteConfig) (moves : List RegistryMove) :
    ((fresh config).run moves).Follows (Connections.run {} moves) := by
  induction moves using List.reverseRecOn with
  | nil =>
    refine ⟨⟨fun profile => ?_, rfl⟩, ⟨?_, ?_, nofun, nofun, nofun⟩, List.forall_mem_nil _⟩
    · cases profile <;> rfl
    · intro profile
      cases profile <;> exact List.nodup_nil
    · intro profile device mem
      cases profile <;> cases mem
  | append_singleton past m ih =>
    rw [run, Connections.run, List.foldl_append, List.foldl_append]
    exact ih.move m

/-- The pairs tell the reply. -/
theorem Follows.reply (h : e.Follows c) {act : Bench.RegistryAct} {reply : Bench.Reply}
    (told : c.reply? act = some reply) : (act.run e.phone).1 = reply := by
  have refines := h.refines
  cases act with
  | detach profile =>
    obtain rfl := Option.some.inj told
    exact congrArg Bench.Reply.addresses (refines.lists profile)
  | connect profile device =>
    obtain rfl := Option.some.inj told
    exact congrArg Bench.Reply.admission (refines.admission e.phone.membership device profile)
  | disconnect address profile =>
    obtain rfl := Option.some.inj told
    change Bench.Reply.flag (e.phone.registry.disconnect address profile).1 = _
    rw [Registry.disconnect_fst]
    exact congrArg Bench.Reply.flag (Bool.eq_iff_iff.mpr (by simpa using refines.holds_iff))
  | isConnected address =>
    obtain rfl := Option.some.inj told
    refine congrArg Bench.Reply.flag (Bool.eq_iff_iff.mpr (refines.isConnected_iff.trans ?_))
    simp
  | profileOf address =>
    obtain rfl := Option.some.inj told
    have held : (fun profile => e.phone.registry.holds profile address) =
        fun profile => decide ((profile, address) ∈ c.pairs) :=
      funext fun profile => Bool.eq_iff_iff.mpr (by simpa using refines.holds_iff)
    exact congrArg (fun test => Bench.Reply.profile (Registry.connectPriority.find? test)) held
  | _ => cases told

end Engaged
/-- After any operations, with audio operations going on among them, the registry is that of the connected
pairs: they tell its replies, a device is taken in exactly if it has an address, its service is bound as far
as LE Audio is concerned and it is not there yet, and otherwise nothing is changed. All the while no profile
lists a device twice or without an address, and all that is stored is about connected devices. -/
theorem registry_refines_connections (config : RouteConfig) (moves : List RegistryMove) :
    let p := ((Engaged.fresh config).run moves).phone
    let c := Connections.run {} moves
    p.registry.Refines c ∧ p.registry.Consistent ∧
    (∀ act reply, c.reply? act = some reply → (act.run p).1 = reply) ∧
    (∀ device profile,
      ((p.addDevice device profile).1 = .ok true ↔
        device.address ≠ .empty ∧ (profile = .leAudio → p.registry.bound.leAudio = true) ∧
          (profile, device.address) ∉ c.pairs) ∧
      ((p.addDevice device profile).1 ≠ .ok true → (p.addDevice device profile).2 = p)) ∧
    (∀ address profile,
      ((p.removeDevice address profile).1 = true ↔ (profile, address) ∈ c.pairs) ∧
      ((p.removeDevice address profile).1 = false → (p.removeDevice address profile).2 = p)) ∧
    ∀ address, p.registry.isConnected address = true ↔ ∃ profile, (profile, address) ∈ c.pairs := by
  intro p c
  have follows : ((Engaged.fresh config).run moves).Follows c := Engaged.follows_run config moves
  have refines : p.registry.Refines c := follows.refines
  refine ⟨refines, follows.consistent, fun act reply => follows.reply, ?_, ?_, fun address => ?_⟩
  · intro device profile
    have answer : (p.addDevice device profile).1 = c.admission profile device.address :=
      refines.admission p.membership device profile
    refine ⟨?_, fun refused => ?_⟩
    · rw [answer, Connections.admission_eq_ok_true_iff, refines.bound]
    · rcases p.registry.connect_cases p.membership device profile with ⟨-, same, -⟩ | ⟨taken, -⟩
      · exact congrArg (fun registry => { p with registry }) same
      · exact absurd taken refused
  · intro address profile
    have answer : (p.removeDevice address profile).1 = p.registry.holds profile address :=
      Registry.disconnect_fst
    refine ⟨?_, fun absent => ?_⟩
    · rw [answer]
      exact refines.holds_iff
    · have same : (p.registry.disconnect address profile).2 = p.registry := by
        unfold Registry.disconnect
        rw [answer] at absent
        rw [absent, if_neg Bool.false_ne_true]
      exact congrArg (fun registry => { p with registry }) same
  · exact refines.isConnected_iff

end CallAudio

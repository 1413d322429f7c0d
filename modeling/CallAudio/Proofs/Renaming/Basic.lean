import CallAudio.Proofs.Run
import Mathlib.Data.List.Basic
import Mathlib.Logic.Function.Basic

/-! Renamings of device addresses, and what they make of everything that has addresses in it. A renaming
keeps devices apart, and it keeps the two octets that are written into the history and into dumps. -/
namespace CallAudio

/-! ### Containers -/

namespace PerProfile

variable {α β : Type} (f : α → β) (m : PerProfile α) (profile : Profile)

def map : PerProfile β := ⟨f m.classicHeadset, f m.hearingAid, f m.leAudio⟩

@[simp] theorem get_map : (m.map f).get profile = f (m.get profile) := by
  cases profile <;> rfl

@[simp] theorem map_set (x : α) : (m.set profile x).map f = (m.map f).set profile (f x) := by
  cases profile <;> rfl

end PerProfile

namespace Table

variable {κ α : Type} [DecidableEq κ] {f : κ → κ}

def mapKeys (f : κ → κ) (t : Table κ α) : Table κ α := t.map fun entry => (f entry.1, entry.2)

theorem get?_mapKeys (hf : Function.Injective f) (t : Table κ α) (key : κ) :
    get? (mapKeys f t) (f key) = get? t key := by
  induction t with
  | nil => rfl
  | cons entry rest ih =>
    change (if f entry.1 = f key then some entry.2 else get? (mapKeys f rest) (f key)) = _
    simp only [hf.eq_iff, ih, get?]

theorem mapKeys_erase (hf : Function.Injective f) (t : Table κ α) (key : κ) :
    mapKeys f (erase t key) = erase (mapKeys f t) (f key) := by
  unfold erase mapKeys
  rw [List.filter_map]
  congr 2
  funext entry
  simp only [Function.comp_apply, ne_eq, hf.eq_iff]

theorem mapKeys_set (hf : Function.Injective f) (t : Table κ α) (key : κ) (value : α) :
    mapKeys f (set t key value) = set (mapKeys f t) (f key) value :=
  congrArg ((f key, value) :: ·) (mapKeys_erase hf t key)

/-- The values of a table go through a function. -/
def mapValues {β : Type} (g : α → β) (t : Table κ α) : Table κ β := t.map fun entry => (entry.1, g entry.2)

theorem get?_mapValues {β : Type} (g : α → β) (t : Table κ α) (key : κ) :
    get? (mapValues g t) key = (get? t key).map g := by
  induction t with
  | nil => rfl
  | cons entry rest ih =>
    change (if entry.1 = key then some (g entry.2) else get? (mapValues g rest) key) = _
    simp only [ih, get?]
    split <;> rfl

theorem mapValues_set {β : Type} (g : α → β) (t : Table κ α) (key : κ) (value : α) :
    mapValues g (set t key value) = set (mapValues g t) key (g value) := by
  unfold set erase mapValues
  rw [List.map_cons, List.filter_map]
  rfl

end Table

def Timer.map {μ ν : Type} (f : μ → ν) (t : Timer μ) : Timer ν := ⟨t.id, t.due, f t.value⟩

namespace Timers

variable {μ ν : Type} (f : μ → ν) (ts : Timers μ)

def map : Timers ν := ⟨ts.nextId, ts.armed.map (Timer.map f)⟩

theorem map_insert (t : Timer μ) (armed : List (Timer μ)) :
    (insert t armed).map (Timer.map f) = insert (t.map f) (armed.map (Timer.map f)) := by
  induction armed with
  | nil => rfl
  | cons x rest ih =>
    change (if x.due ≤ t.due then _ else _ : List (Timer μ)).map (Timer.map f) =
      if x.due ≤ t.due then _ else _
    split
    · exact congrArg (x.map f :: ·) ih
    · rfl

theorem map_arm (due : Nat) (value : μ) : (ts.arm due value).map f = (ts.map f).arm due (f value) :=
  congrArg (Timers.mk (ts.nextId + 1)) (map_insert f ⟨ts.nextId, due, value⟩ ts.armed)

theorem map_cancel (id : Nat) : (ts.cancel id).map f = (ts.map f).cancel id := by
  unfold cancel map
  rw [List.filter_map]
  rfl

end Timers

namespace EventLog

variable {α β : Type} (f : α → β)

def map (log : EventLog α) : EventLog β := ⟨log.capacity, log.entries.map f⟩

theorem map_push (log : EventLog α) (entry : α) : (log.push entry).map f = (log.map f).push (f entry) := by
  unfold push map
  dsimp only
  rw [List.length_map, List.map_append]
  split
  · rw [List.map_tail]
    rfl
  · rfl

end EventLog

/-! ### Renamings -/

/-- An injective renaming of addresses that leaves the all-zero address and the last two octets of
every address as they are. -/
structure Renaming where
  toFun : Address → Address
  injective : Function.Injective toFun
  empty : toFun .empty = .empty
  fifth : ∀ x, (toFun x).e = x.e
  sixth : ∀ x, (toFun x).f = x.f

namespace Renaming

instance : CoeFun Renaming fun _ => Address → Address := ⟨toFun⟩

variable (ρ : Renaming)

@[simp] theorem apply_inj {x y : Address} : ρ x = ρ y ↔ x = y := ρ.injective.eq_iff

@[simp] theorem apply_eq_empty {x : Address} : ρ x = .empty ↔ x = .empty := by
  have same : ρ x = ρ .empty ↔ x = .empty := ρ.apply_inj
  rwa [ρ.empty] at same

@[simp] theorem redacted_apply (x : Address) : (ρ x).redacted = x.redacted := by
  unfold Address.redacted
  rw [ρ.fifth, ρ.sixth]

@[simp] theorem option_inj {x y : Option Address} : x.map ρ = y.map ρ ↔ x = y :=
  (Option.map_injective ρ.injective).eq_iff

@[simp] theorem option_eq_some {x : Option Address} {a : Address} : x.map ρ = some (ρ a) ↔ x = some a :=
  ρ.option_inj (y := some a)

def device (d : Device) : Device := { d with address := ρ d.address }

def route (r : AudioRoute) : AudioRoute := { r with address := r.address.map ρ }

def communicationDevice (d : CommunicationDevice) : CommunicationDevice :=
  { d with address := d.address.map ρ }

def state : RouteState → RouteState
  | .audioOff => .audioOff
  | .connecting address => .connecting (ρ address)
  | .connected address => .connected (ρ address)

def token (t : ConfirmationToken) : ConfirmationToken := { t with address := t.address.map ρ }

def confirmation (c : Confirmation) : Confirmation := { c with token := ρ.token c.token }

def action : RouteAction → RouteAction
  | .connectBluetooth address => .connectBluetooth (address.map ρ)
  | other => other

def message : Message → Message
  | .deviceAdded device profile => .deviceAdded (ρ.device device) profile
  | .deviceLost address profile => .deviceLost (ρ address) profile
  | .activeDeviceChanged profile address => .activeDeviceChanged profile (address.map ρ)
  | .connect address => .connect (address.map ρ)
  | .retryConnect address attempt => .retryConnect (ρ address) attempt
  | .disconnect => .disconnect
  | .connectionTimeout address => .connectionTimeout (ρ address)
  | .audioOn address => .audioOn (ρ address)
  | .audioLost address => .audioLost (address.map ρ)
  | .beginTransition origin destination destinationActive ticket =>
    .beginTransition (ρ.route origin) (ρ.route destination) destinationActive ticket
  | .confirmation c => .confirmation (ρ.confirmation c)
  | .transitionFailed address => .transitionFailed (address.map ρ)
  | .transitionTimeout id => .transitionTimeout id
  | .switchToBaseline exclude => .switchToBaseline (exclude.map ρ)
  | .query question ticket => .query question ticket

def answer : Answer → Answer
  | .state value => .state (ρ.state value)
  | other => other

/-! ### The parts of a phone -/

def outcome : ConnectOutcome → ConnectOutcome
  | .reaffirmed address => .reaffirmed (ρ address)
  | .alreadyConnecting address => .alreadyConnecting (ρ address)
  | .started address => .started (ρ address)
  | .rejected address => .rejected (ρ address)
  | .noDevice => .noDevice

def entry : HistoryEntry → HistoryEntry
  | .noDevices requested => .noDevices (requested.map ρ)
  | .connectFailed target attempt failure => .connectFailed (ρ target) attempt failure
  | .disconnectRequested state => .disconnectRequested (ρ.state state)
  | .timedOut address => .timedOut (ρ address)
  | .unexpectedLoss address state => .unexpectedLoss (ρ address) (ρ.state state)
  | .moved source target => .moved (ρ.state source) (ρ.state target)

def machine (m : Machine) : Machine :=
  { m with
    state := ρ.state m.state
    recent := m.recent.map ρ
    history := m.history.map ρ.entry }

def communication (c : Address × EndpointKind) : Address × EndpointKind := (ρ c.1, c.2)

def registry (r : Registry) : Registry where
  devices := r.devices.map (List.map ρ.device)
  active := r.active.map (Option.map ρ)
  pairs := r.pairs.mapKeys ρ
  groups := r.groups.mapKeys ρ
  communication := r.communication.map ρ.communication
  bound := r.bound

def adapter (x : Adapter) : Adapter where
  active := x.active.map (List.map ρ)
  rejected := x.rejected.map ρ
  requests := x.requests.map fun request => (ρ request.1, request.2)

def audio (x : AudioService) : AudioService :=
  { x with
    available := x.available.map ρ.communicationDevice
    current := x.current.map ρ.communicationDevice
    requests := x.requests.map ρ.communicationDevice }

def platform (x : Platform) : Platform where
  adapter := ρ.adapter x.adapter
  headset := { x.headset with states := x.headset.states.mapKeys ρ }
  hearingAid := ⟨x.hearingAid.pairs.mapKeys ρ⟩
  leAudio := { x.leAudio with groups := x.leAudio.groups.mapKeys ρ }
  audio := ρ.audio x.audio

def transitionOutcome : TransitionOutcome → TransitionOutcome
  | .resolved id destination => .resolved id (ρ.route destination)
  | .fallBackToBaseline exclude => .fallBackToBaseline (exclude.map ρ)

def pending (t : PendingTransition) : PendingTransition :=
  { t with
    origin := ρ.route t.origin
    destination := ρ.route t.destination
    outstanding := t.outstanding.map ρ.token }

def tracker (t : TransitionTracker) : TransitionTracker := { t with pending := t.pending.map ρ.pending }

def routeEvent : RouteEvent → RouteEvent
  | .audioConnecting address => .audioConnecting (ρ address)
  | .audioConnected address => .audioConnected (ρ address)
  | other => other

def transitionEvent : TransitionEvent → TransitionEvent
  | .routeActive route => .routeActive (ρ.route route)
  | .switchToBaseline exclude => .switchToBaseline (exclude.map ρ)

def happening : Happening → Happening
  | .handled message => .handled (ρ.message message)
  | .told event => .told (ρ.routeEvent event)
  | .announced event => .announced (ρ.transitionEvent event)
  | .audioRequested address => .audioRequested (ρ address)
  | .audioReleased => .audioReleased
  | .begun id actions => .begun id (actions.map ρ.action)
  | .performed action => .performed (ρ.action action)

def journalEntry (e : JournalEntry) : JournalEntry := ⟨ρ.happening e.happening, ρ.state e.state⟩

def phone (p : Phone) : Phone :=
  { p with
    timers := p.timers.map ρ.message
    platform := ρ.platform p.platform
    registry := ρ.registry p.registry
    inbox := p.inbox.map ρ.message
    machine := ρ.machine p.machine
    tracker := ρ.tracker p.tracker
    answers := p.answers.mapValues ρ.answer
    journal := p.journal.map ρ.journalEntry }

/-! ### What goes on around the thread -/

def platformEvent : PlatformEvent → PlatformEvent
  | .connectionChanged profile device state => .connectionChanged profile (ρ.device device) state
  | .activeDeviceChanged profile address => .activeDeviceChanged profile (address.map ρ)
  | .scoChanged address state => .scoChanged (ρ address) state

def eventAct : Bench.EventAct → Bench.EventAct
  | .event event => .event (ρ.platformEvent event)
  | .rawConnection profile device state => .rawConnection profile (ρ.device device) state
  | .rawSco address state => .rawSco (ρ address) state
  | .communicationDeviceChanged device => .communicationDeviceChanged (device.map ρ.communicationDevice)
  | other => other

def registryAct : Bench.RegistryAct → Bench.RegistryAct
  | .connect profile device => .connect profile (ρ.device device)
  | .disconnect address profile => .disconnect (ρ address) profile
  | .setActive profile address => .setActive profile (address.map ρ)
  | .isConnected address => .isConnected (ρ address)
  | .profileOf address => .profileOf (ρ address)
  | .connectTarget requested recent => .connectTarget (requested.map ρ) (recent.map ρ)
  | .makeCommunicationDevice address => .makeCommunicationDevice (ρ address)
  | other => other

def outside : Outside → Outside
  | .post message => .post (ρ.message message)
  | .event act => .event (ρ.eventAct act)
  | .registry act => .registry (ρ.registryAct act)
  | .communication device => .communication (device.map ρ.communication)
  | .platform platform => .platform (ρ.platform platform)
  | .fire timer => .fire timer
  | .pass span => .pass span

def move : ThreadMove → ThreadMove
  | .outside o => .outside (ρ.outside o)
  | other => other

end Renaming
end CallAudio

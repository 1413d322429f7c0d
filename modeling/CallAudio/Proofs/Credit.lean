import CallAudio.Proofs.Moves
import CallAudio.Proofs.Queue
import CallAudio.Proofs.Touches
import Mathlib.Algebra.BigOperators.Group.Multiset.Basic

/-! The budget for requests of audio. A new connect pays for one request and for all the retries that may
follow it; what these may still request is the credit of the retries that are armed or queued. -/
namespace CallAudio

/-- The sum of what the happenings in a journal count for. -/
def tally (count : Happening → Nat) : List JournalEntry → Nat
  | [] => 0
  | e :: entries => count e.happening + tally count entries

theorem tally_append (count : Happening → Nat) (journal entries : List JournalEntry) :
    tally count (journal ++ entries) = tally count journal + tally count entries := by
  induction journal with
  | nil => exact (Nat.zero_add _).symm
  | cons e rest ih =>
    rw [List.cons_append, tally, tally, ih, Nat.add_assoc]

theorem tally_snoc (count : Happening → Nat) (journal : List JournalEntry) (happening : Happening)
    (state : RouteState) :
    tally count (journal ++ [⟨happening, state⟩]) = tally count journal + count happening :=
  tally_append count journal [⟨happening, state⟩]

theorem tally_eq_zero {count : Happening → Nat} {entries : List JournalEntry}
    (h : ∀ e ∈ entries, count e.happening = 0) : tally count entries = 0 := by
  induction entries with
  | nil => rfl
  | cons e rest ih =>
    obtain ⟨first, others⟩ := List.forall_mem_cons.mp h
    rw [tally, first, ih others]

def RouteAction.isConnect : RouteAction → Bool
  | .connectBluetooth _ => true
  | _ => false

namespace Happening

/-- Requests for audio on a device. -/
def audioRequests : Happening → Nat
  | .audioRequested _ => 1
  | _ => 0

/-- New connects: connect messages, and connects among the actions of transitions. A transition that
connects does nothing else, so its connect is made as soon as it is begun. -/
def newConnects : Happening → Nat
  | .handled (.connect _) => 1
  | .begun _ actions => actions.countP RouteAction.isConnect
  | _ => 0

/-- Happenings that have no part in the budget. -/
def isFree : Happening → Bool
  | .handled _ | .begun .. | .audioRequested _ => false
  | _ => true

variable {happening : Happening}

theorem audioRequests_of_isFree (h : happening.isFree = true) : happening.audioRequests = 0 := by
  cases happening <;> first | rfl | cases h

theorem newConnects_of_isFree (h : happening.isFree = true) : happening.newConnects = 0 := by
  cases happening <;> first | rfl | cases h

theorem message?_of_isFree (h : happening.isFree = true) : happening.message? = none := by
  cases happening <;> first | rfl | cases h

end Happening

namespace Message

def isRetry (message : Message) : Bool := message.slot? = some .retry

/-- The requests for audio that a message may still lead to without any new connect. -/
def credit : Message → Nat
  | .retryConnect _ attempt => maxRetries + 1 - attempt
  | _ => 0

/-- The requests that the handling of a message may lead to, now or later. A transition is given the
budget for its connects when it is begun. -/
def budget : Message → Nat
  | .connect _ => maxRetries + 1
  | message => message.credit

/-- Retries make the attempts after the first, and no more than there may be. -/
def Proper : Message → Prop
  | .retryConnect _ attempt => 1 ≤ attempt ∧ attempt ≤ maxRetries
  | _ => True

end Message

/-- The retries among some messages, in whatever order. -/
def retriesAmong (messages : List Message) : Multiset Message := messages.filter Message.isRetry

theorem retriesAmong_append (messages messages' : List Message) :
    retriesAmong (messages ++ messages') = retriesAmong messages + retriesAmong messages' := by
  rw [retriesAmong, List.filter_append, ← Multiset.coe_add]
  rfl

theorem retriesAmong_le {messages messages' : List Message} (h : messages.Sublist messages') :
    retriesAmong messages ≤ retriesAmong messages' := Multiset.coe_le.mpr (h.filter _).subperm

theorem retriesAmong_single {message : Message} (h : message.isRetry = false) :
    retriesAmong [message] = 0 := by
  unfold retriesAmong
  rw [List.filter_cons_of_neg (h ▸ Bool.false_ne_true)]
  rfl

theorem credit_retriesAmong_single (message : Message) :
    ((retriesAmong [message]).map Message.credit).sum = message.credit := by
  cases message <;> rfl

/-- The retries that timers stand for. -/
def Timers.retries (ts : Timers Message) : Multiset Message := retriesAmong (ts.armed.map Timer.value)

namespace Timers

theorem retries_arm (ts : Timers Message) (due : Nat) (message : Message) :
    (ts.arm due message).retries = retriesAmong [message] + ts.retries := by
  rw [retries, retries, ← retriesAmong_append]
  exact Multiset.coe_eq_coe.mpr (((insert_perm ⟨ts.nextId, due, message⟩ ts.armed).map Timer.value).filter _)

theorem retries_release (ts : Timers Message) (held : Option Nat) :
    (ts.release held).retries ≤ ts.retries := retriesAmong_le ((ts.release_sublist held).map _)

/-- A timer that fires leaves the others. -/
theorem retries_cancel {ts : Timers Message} {t : Timer Message} (h : t ∈ ts.armed) :
    retriesAmong [t.value] + (ts.cancel t.id).retries ≤ ts.retries := by
  obtain ⟨before, after, armed⟩ := List.append_of_mem h
  have left : (ts.cancel t.id).armed.Sublist (before ++ after) := by
    unfold cancel
    rw [armed, List.filter_append, List.filter_cons_of_neg (by simp)]
    exact List.filter_sublist.append List.filter_sublist
  have all : ts.retries = retriesAmong [t.value] + retriesAmong ((before ++ after).map Timer.value) := by
    rw [retries, armed, ← retriesAmong_append]
    exact Multiset.coe_eq_coe.mpr ((List.perm_middle.map Timer.value).filter _)
  rw [all]
  exact Multiset.add_le_add_left (retriesAmong_le (left.map Timer.value))

end Timers

namespace Phone

/-- The retries that are queued or armed. -/
def dueRetries (p : Phone) : Multiset Message := retriesAmong p.inbox + p.timers.retries

/-- What was requested, what retries that are due may still request, and `n` more requests are paid for by
the new connects; and all retries are proper. -/
structure Solvent (n : Nat) (p : Phone) : Prop where
  covered : tally Happening.audioRequests p.journal + (p.dueRetries.map Message.credit).sum + n ≤
    (maxRetries + 1) * tally Happening.newConnects p.journal
  due : ∀ message ∈ p.dueRetries, message.Proper
  handled : ∀ message ∈ handledMessages p.journal, message.Proper

/-- Nothing of the budget is spent, and no retry becomes due that was not. -/
structure Unspent (p q : Phone) : Prop where
  journal : ∃ entries, q.journal = p.journal ++ entries ∧ ∀ e ∈ entries, e.happening.isFree = true
  retries : q.dueRetries ≤ p.dueRetries

variable {p q r : Phone} {n k : Nat}

theorem Solvent.mono (h : p.Solvent n) (hk : k ≤ n) : p.Solvent k :=
  ⟨Nat.le_trans (Nat.add_le_add_left hk _) h.covered, h.due, h.handled⟩

theorem credit_mono {messages messages' : Multiset Message} (h : messages ≤ messages') :
    (messages.map Message.credit).sum ≤ (messages'.map Message.credit).sum := by
  obtain ⟨others, rfl⟩ := Multiset.le_iff_exists_add.mp h
  rw [Multiset.map_add, Multiset.sum_add]
  exact Nat.le_add_right _ _

theorem Solvent.unspent (h : p.Solvent n) (hq : Unspent p q) : q.Solvent n := by
  obtain ⟨⟨entries, journal, free⟩, retries⟩ := hq
  have same {count : Happening → Nat} (hc : ∀ e ∈ entries, count e.happening = 0) :
      tally count q.journal = tally count p.journal := by
    rw [journal, tally_append, tally_eq_zero hc]
    rfl
  have handled : handledMessages q.journal = handledMessages p.journal := by
    have none : handledMessages entries = [] :=
      List.filterMap_eq_nil_iff.mpr fun e he => Happening.message?_of_isFree (free e he)
    rw [journal, handledMessages, List.filterMap_append]
    change _ ++ handledMessages entries = _
    rw [none, List.append_nil]
    rfl
  refine ⟨?_, fun message mem => h.due message (Multiset.mem_of_le retries mem), handled ▸ h.handled⟩
  rw [same fun e he => Happening.audioRequests_of_isFree (free e he),
    same fun e he => Happening.newConnects_of_isFree (free e he)]
  have credit := credit_mono retries
  have covered := h.covered
  omega

namespace Unspent

theorem trans (h : Unspent p q) (h' : Unspent q r) : Unspent p r := by
  obtain ⟨entries, journal, free⟩ := h.journal
  obtain ⟨entries', journal', free'⟩ := h'.journal
  refine ⟨⟨entries ++ entries', ?_, fun e he => ?_⟩, h'.retries.trans h.retries⟩
  · rw [journal', journal, List.append_assoc]
  · exact (List.mem_append.mp he).elim (free e) (free' e)

theorem of_timers (hj : q.journal = p.journal) (hi : q.inbox = p.inbox)
    (ht : q.timers.retries ≤ p.timers.retries) : Unspent p q := by
  refine ⟨⟨[], hj.trans (List.append_nil _).symm, List.forall_mem_nil _⟩, ?_⟩
  rw [dueRetries, hi]
  exact Multiset.add_le_add_left ht

theorem of_same (hj : q.journal = p.journal) (hi : q.inbox = p.inbox) (ht : q.timers = p.timers) :
    Unspent p q := of_timers hj hi (ht ▸ le_rfl)

theorem refl (p : Phone) : Unspent p p := of_same rfl rfl rfl

theorem record (p : Phone) {happening : Happening} (h : happening.isFree = true) :
    Unspent p (p.record happening) :=
  ⟨⟨_, rfl, fun _ he => List.mem_singleton.mp he ▸ h⟩, le_rfl⟩

theorem post (p : Phone) {message : Message} (h : message.isRetry = false) :
    Unspent p (p.post message) := by
  unfold Phone.post
  split
  · exact refl p
  · refine ⟨⟨[], (List.append_nil _).symm, List.forall_mem_nil _⟩, ?_⟩
    change retriesAmong (p.inbox ++ [message]) + p.timers.retries ≤ _
    rw [retriesAmong_append, retriesAmong_single h, add_zero]
    exact le_rfl

theorem track (p : Phone) (f : TransitionTracker → Option TransitionOutcome × TransitionTracker) :
    Unspent p (p.track f) := by
  have tracked : Unspent p { p with tracker := (f p.tracker).2 } := of_same rfl rfl rfl
  rcases p.track_eq f with h | ⟨event, h⟩
  · rwa [h]
  · rw [h]
    exact tracked.trans (record _ rfl)

theorem dropRetry (p : Phone) : Unspent p p.dropRetry := by
  rw [dropRetry_eq]
  exact of_timers rfl rfl (p.timers.retries_release _)

theorem startDeadline (p : Phone) (id : TransitionId) : Unspent p (p.startDeadline id) := by
  rw [startDeadline_eq]
  refine of_timers rfl rfl ((Timers.retries_release _ _).trans (le_of_eq ?_))
  rw [Timers.retries_arm, retriesAmong_single rfl, zero_add]

theorem makeCommunicationDevice (p : Phone) (address : Address) :
    Unspent p (p.makeCommunicationDevice address).2 := by
  obtain ⟨platform, communication, h⟩ := p.makeCommunicationDevice_eq address
  rw [h]
  exact of_same rfl rfl rfl

theorem releaseCommunicationDevice (p : Phone) : Unspent p p.releaseCommunicationDevice := by
  obtain ⟨platform, h | ⟨address, h⟩⟩ := p.releaseCommunicationDevice_eq
  · rw [h]
    exact of_same rfl rfl rfl
  · rw [h]
    have released : Unspent p { p with platform, registry := { p.registry with communication := none } } :=
      of_same rfl rfl rfl
    exact released.trans (post _ rfl)

theorem claim (p : Phone) (address : Address) : Unspent p (p.claim address) := by
  have made := makeCommunicationDevice p address
  rcases p.claim_eq address with h | h
  · rwa [h]
  · rw [h]
    exact made.trans (post _ rfl)

theorem departed (p : Phone) (target : RouteState) : Unspent p (p.departed target) := by
  rw [departed_eq]
  exact of_timers rfl rfl ((Timers.retries_release _ _).trans (p.timers.retries_release _))

theorem moveTo (p : Phone) (target : RouteState) : Unspent p (p.moveTo target) := by
  by_cases same : target = p.machine.state
  · rw [moveTo_same p same]
    exact refl p
  · rw [moveTo_eq p same]
    apply (departed p target).trans
    cases target with
    | audioOff => exact record _ rfl
    | connecting address =>
      refine of_timers rfl rfl (le_of_eq ?_)
      exact (Timers.retries_arm ..).trans (by rw [retriesAmong_single rfl, zero_add])
    | connected address =>
      have arrived : Unspent (p.departed (.connected address)) (p.arrived address) :=
        ⟨⟨_, rfl, fun _ he => List.mem_singleton.mp he ▸ rfl⟩, le_rfl⟩
      exact arrived.trans (claim _ address)

theorem setCommunicationKind (p : Phone) (kind : EndpointKind) :
    Unspent p (p.setCommunicationKind kind) := by
  obtain ⟨platform, h⟩ := p.setCommunicationKind_eq kind
  have asked : Unspent p { p with platform } := of_same rfl rfl rfl
  rcases h with h | h
  · rwa [h]
  · rw [h]
    exact asked.trans (track _ _)

end Unspent

end Phone

/-- Nothing is spent by what has to do neither with services and retries nor with the begin of a
transition. -/
theorem Touch.unspent {cs : List Concern} {p q : Phone} (h : Touch cs p q) (unserved : .services ∉ cs)
    (unasked : .retry ∉ cs) (unstarted : ∀ origin destination destinationActive,
      .start origin destination destinationActive ∉ cs) : Phone.Unspent p q := by
  have same {r : Phone} (hj : r.journal = p.journal) (hi : r.inbox = p.inbox)
      (ht : r.timers = p.timers) : Phone.Unspent p r := .of_same hj hi ht
  cases h with
  | requested address mem => exact absurd mem unserved
  | asked adapter headset mem => exact absurd mem unserved
  | made address mem => exact absurd mem unserved
  | released mem => exact absurd mem unserved
  | retryDropped mem => exact absurd mem unasked
  | rejected _ _ _ mem => exact absurd mem unasked
  | begun _ _ _ mem => exact absurd mem (unstarted _ _ _)
  | recorded happening plain =>
    refine .record p ?_
    cases happening <;> first | rfl | cases plain
  | posted message report =>
    refine .post p ?_
    cases message <;> first | rfl | cases report
  | moved target => exact .moveTo p target
  | chosen kind => exact .setCommunicationKind p kind
  | added device profile =>
    have added : Phone.Unspent p (p.addDevice device profile).2 := same rfl rfl rfl
    rcases p.onDeviceAdded_eq device profile with h | h
    · rwa [h]
    · rw [h]
      exact added.trans (.record _ rfl)
  | activated profile address =>
    have activated : Phone.Unspent p (p.setActiveDevice profile address).2 := same rfl rfl rfl
    rcases p.onActiveDeviceChanged_eq profile address with h | h | h
    · rwa [h]
    · rw [h]
      exact activated.trans (.record _ rfl)
    · rw [h]
      exact activated.trans (.record _ rfl)
  | tracked f => exact .track p f
  | abandoned exclude =>
    have abandoned : Phone.Unspent p { p with tracker := p.tracker.abandon.2 } := same rfl rfl rfl
    exact abandoned.trans (.record _ rfl)
  | deadlineDropped =>
    rw [Phone.dropDeadline_eq]
    exact .of_timers rfl rfl (p.timers.retries_release _)
  | _ => exact same rfl rfl rfl

end CallAudio

import CallAudio.Proofs.ConnectionDeadline
import CallAudio.Proofs.Connections
import CallAudio.Proofs.Usage

/-! The ranking of the devices by their use, along a message. Each stretch of it, up to a wait or to its end,
moves audio to at most one device, and that is the last thing it does. -/
namespace CallAudio

/-- A connected state that is entered from another state. -/
def RouteState.usage (before after : RouteState) : List Usage :=
  match after with
  | .connected address => if before = .connected address then [] else [.entered address]
  | _ => []

/-- The profiles that a device is connected over. -/
def Registry.profilesOf (r : Registry) (address : Address) : List Profile :=
  connectPriority.filter fun profile => r.holds profile address

/-- A message takes the last profile from a device. -/
def Phone.losses (p : Phone) : Message → List Usage
  | .deviceLost address profile =>
    if p.registry.profilesOf address = [profile] then [.lost address] else []
  | _ => []

variable {α β : Type} {R T U : Phone → Phone → Prop} {p q r : Phone}

namespace Step

/-- Each stretch of the step leads to where the relation says, wherever it goes on from after a wait. -/
def EachStretch (R : Phone → Phone → Prop) (p : Phone) : Step α → Prop
  | .done _ q => R p q
  | .wait q resume => R p q ∧ ∀ attached r, (resume attached r).EachStretch R r

variable {s : Step α}

theorem EachStretch.mono (h : s.EachStretch R p) (hR : ∀ p q, R p q → T p q) : s.EachStretch T p := by
  induction s generalizing p with
  | done value q => exact hR p q h
  | wait q resume ih => exact ⟨hR p q h.1, fun attached r => ih attached r (h.2 attached r)⟩

/-- Only the first stretch depends on where the step starts. -/
theorem EachStretch.start (h : s.EachStretch T q) (first : ∀ r, T q r → U p r)
    (rest : ∀ p q, T p q → U p q) : s.EachStretch U p := by
  cases s with
  | done value r => exact first r h
  | wait r resume => exact ⟨first r h.1, fun attached r' => (h.2 attached r').mono rest⟩

/-- A stretch that the first part ends in goes on with the first stretch of the second. -/
structure Joins (R T U : Phone → Phone → Prop) : Prop where
  first : ∀ p q, R p q → U p q
  second : ∀ p q, T p q → U p q
  both : ∀ p q r, R p q → T q r → U p r

theorem EachStretch.bind {next : α → Job β} (joins : Joins R T U) (h : s.EachStretch R p)
    (hn : ∀ value q, (next value q).EachStretch T q) : (s.bind next).EachStretch U p := by
  induction s generalizing p with
  | done value q => exact (hn value q).start (fun r goes => joins.both p q r h goes) joins.second
  | wait q resume ih =>
    exact ⟨joins.first p q h.1, fun attached r => ih attached r (h.2 attached r)⟩

end Step

/-- Neither the state nor the ranking changes. -/
def SameUse (p q : Phone) : Prop :=
  q.machine.state = p.machine.state ∧ q.machine.recent = p.machine.recent

/-- The ranking stays, and no connected state is entered. -/
def Quits (p q : Phone) : Prop :=
  q.machine.recent = p.machine.recent ∧
    (q.machine.state = p.machine.state ∨ ∀ address, q.machine.state ≠ .connected address)

/-- The ranking follows the change of the state. -/
def Uses (p q : Phone) : Prop :=
  q.machine.recent = (p.machine.state.usage q.machine.state).foldl Usage.apply p.machine.recent

namespace SameUse

theorem refl (p : Phone) : SameUse p p := ⟨rfl, rfl⟩

theorem of_machine (h : q.machine = p.machine) : SameUse p q :=
  ⟨congrArg Machine.state h, congrArg Machine.recent h⟩

theorem trans (h : SameUse p q) (h' : SameUse q r) : SameUse p r := ⟨h'.1.trans h.1, h'.2.trans h.2⟩

theorem rejected (p : Phone) (target : Address) (attempt : Nat) (failure : ConnectFailure) :
    SameUse p (p.onRejected target attempt failure) := by
  have machine := (p.onRejected_same target attempt failure).1
  exact ⟨(congrArg Machine.state machine).trans rfl, (congrArg Machine.recent machine).trans rfl⟩

theorem quits (h : SameUse p q) : Quits p q := ⟨h.2, Or.inl h.1⟩

theorem uses_of (h : SameUse p q) (uses : Uses q r) : Uses p r := by
  unfold Uses at uses ⊢
  rw [uses, h.1, h.2]

end SameUse

theorem RouteState.usage_self (s : RouteState) : s.usage s = [] := by
  unfold usage
  split
  · exact if_pos rfl
  · rfl

theorem Quits.trans (h : Quits p q) (h' : Quits q r) : Quits p r := by
  refine ⟨h'.1.trans h.1, ?_⟩
  rcases h'.2 with same | other
  · rw [same]
    exact h.2
  · exact Or.inr other

theorem Quits.uses (h : Quits p q) : Uses p q := by
  have unused : p.machine.state.usage q.machine.state = [] := by
    rcases h.2 with same | other
    · rw [same]
      exact RouteState.usage_self _
    · unfold RouteState.usage
      split
      · rename_i address state
        exact absurd state (other address)
      · rfl
  unfold Uses
  rw [unused]
  exact h.1

theorem Uses.same (h : Uses p q) (same : SameUse q r) : Uses p r := by
  unfold Uses at h ⊢
  rw [same.1, same.2]
  exact h

namespace Step

theorem joins_quits : Joins Quits Quits Quits := ⟨fun _ _ => id, fun _ _ => id, fun _ _ _ => .trans⟩

theorem joins_before : Joins SameUse Uses Uses :=
  ⟨fun _ _ same => same.quits.uses, fun _ _ => id, fun _ _ _ same => same.uses_of⟩

theorem joins_after : Joins Uses SameUse Uses :=
  ⟨fun _ _ => id, fun _ _ same => same.quits.uses, fun _ _ _ uses => uses.same⟩

end Step

namespace Phone

theorem recent_departed (p : Phone) (target : RouteState) :
    (p.departed target).machine.recent = p.machine.recent := by
  rw [departed_eq]

/-- A move to another state enters that state, and uses its device. -/
theorem moveTo_uses (p : Phone) (target : RouteState) : Uses p (p.moveTo target) := by
  by_cases same : target = p.machine.state
  · rw [moveTo_same p same]
    exact (SameUse.refl p).quits.uses
  · unfold Uses
    rw [state_moveTo, moveTo_eq p same]
    cases target with
    | audioOff => exact recent_departed p _
    | connecting address => exact recent_departed p _
    | connected address =>
      have entered : p.machine.state.usage (.connected address) = [.entered address] :=
        if_neg (Ne.symm same)
      have machine : ((p.arrived address).claim address).machine = (p.arrived address).machine :=
        (claim_undisturbed _ address).machine
      rw [entered]
      show ((p.arrived address).claim address).machine.recent = _
      rw [machine]
      show (p.departed (.connected address)).machine.recent.filter (· ≠ address) ++ [address] = _
      rw [recent_departed]
      rfl

theorem moveTo_connecting_quits (p : Phone) (address : Address) : Quits p (p.moveTo (.connecting address)) := by
  have uses := p.moveTo_uses (.connecting address)
  unfold Uses at uses
  rw [state_moveTo] at uses
  refine ⟨uses, Or.inr ?_⟩
  rw [state_moveTo]
  exact nofun

end Phone

/-- Touches that have nothing to do with the state, or with a device that is gone, leave the ranking alone. -/
theorem Touch.sameUse {cs : List Concern} (h : Touch cs p q) (unmoved : .state ∉ cs)
    (present : ∀ address, .absence address ∉ cs) : SameUse p q := by
  cases h with
  | moved target mem => exact absurd mem unmoved
  | unused address mem => exact absurd mem (present address)
  | posted message => exact .of_machine (Undisturbed.post p message).machine
  | made address => exact .of_machine (p.makeCommunicationDevice_undisturbed address).machine
  | released => exact .of_machine p.releaseCommunicationDevice_undisturbed.machine
  | retryDropped =>
    rw [Phone.dropRetry_eq]
    exact ⟨rfl, rfl⟩
  | rejected target attempt failure => exact .rejected p target attempt failure
  | chosen kind =>
    obtain ⟨platform, h | h⟩ := p.setCommunicationKind_eq kind
    · rw [h]
      exact ⟨rfl, rfl⟩
    · rw [h]
      exact .of_machine (Phone.track_machine _ _)
  | added device profile =>
    rcases p.onDeviceAdded_eq device profile with h | h <;> (rw [h]; exact ⟨rfl, rfl⟩)
  | activated profile address =>
    rcases p.onActiveDeviceChanged_eq profile address with h | h | h <;> (rw [h]; exact ⟨rfl, rfl⟩)
  | begun origin destination destinationActive =>
    rw [Phone.startDeadline_eq]
    exact ⟨rfl, rfl⟩
  | tracked f => exact .of_machine (Phone.track_machine p f)
  | deadlineDropped =>
    rw [Phone.dropDeadline_eq]
    exact ⟨rfl, rfl⟩
  | _ => exact ⟨rfl, rfl⟩

theorem Touches.sameUse {cs : List Concern} (h : Touches cs p q) (unmoved : .state ∉ cs)
    (present : ∀ address, .absence address ∉ cs) : SameUse p q :=
  h.keeps (fun _ _ touch same => same.trans (touch.sameUse unmoved present)) (.refl p)

theorem Step.Does.sameUse {cs : List Concern} {s : Step α} (h : s.Does cs p) (unmoved : .state ∉ cs)
    (present : ∀ address, .absence address ∉ cs) : s.EachStretch SameUse p := by
  induction s generalizing p with
  | done value q => exact Touches.sameUse h unmoved present
  | wait q resume ih =>
    exact ⟨Touches.sameUse h.1 unmoved present, fun attached r => ih attached r (h.2 attached r)⟩

/-- Each stretch of the job leads to where the relation says, from wherever it is begun. -/
def Job.EachStretch (R : Phone → Phone → Prop) (job : Job α) : Prop := ∀ p, (job p).EachStretch R p

namespace Job

variable {job : Job α} {cs : List Concern}

theorem EachStretch.bind {next : α → Job β} (joins : Step.Joins R T U) (h : job.EachStretch R)
    (hn : ∀ value, (next value).EachStretch T) : (job >>= next).EachStretch U :=
  fun p => Step.EachStretch.bind joins (h p) hn

theorem sameUse_pure (value : α) : (pure value : Job α).EachStretch SameUse := .refl

theorem sameUse_read : Job.read.EachStretch SameUse := .refl

theorem EachStretch.quits (h : job.EachStretch SameUse) : job.EachStretch Quits :=
  fun p => (h p).mono fun _ _ same => same.quits

theorem EachStretch.uses (h : job.EachStretch Quits) : job.EachStretch Uses :=
  fun p => (h p).mono fun _ _ quits => quits.uses

theorem Does.sameUse (h : job.Does cs) (unmoved : .state ∉ cs) (present : ∀ address, .absence address ∉ cs) :
    job.EachStretch SameUse := fun p => (h p).sameUse unmoved present

theorem Does.quits (h : job.Does cs) (unmoved : .state ∉ cs) (present : ∀ address, .absence address ∉ cs) :
    job.EachStretch Quits := (h.sameUse unmoved present).quits

/-- One part of a job that enters no connected state after another. -/
theorem EachStretch.and_then {next : α → Job β} (h : job.EachStretch Quits)
    (hn : ∀ value, (next value).EachStretch Quits) : (job >>= next).EachStretch Quits :=
  h.bind Step.joins_quits hn

theorem quits_read_bind {next : Phone → Job β} (hn : ∀ p, (next p).EachStretch Quits) :
    (Job.read >>= next).EachStretch Quits := sameUse_read.quits.and_then hn

theorem quits_update_bind {f : Phone → Phone} {next : Unit → Job β} (h : ∀ p, SameUse p (f p))
    (hn : (next ()).EachStretch Quits) : (Job.update f >>= next).EachStretch Quits := by
  have first : (Job.update f).EachStretch SameUse := h
  exact first.quits.and_then fun _ => hn

theorem quits_change_bind {f : Phone → α × Phone} {next : α → Job β} (h : ∀ p, SameUse p (f p).2)
    (hn : ∀ value, (next value).EachStretch Quits) : (Job.change f >>= next).EachStretch Quits := by
  have first : (Job.change f).EachStretch SameUse := h
  exact first.quits.and_then hn

end Job

namespace Phone
open Job

theorem startConnect_quits (target : Address) (attempt : Nat) :
    (startConnect target attempt).EachStretch Quits := by
  have released : disconnectAudio.Does [.services] := disconnectAudio_does (by simp)
  have asked (switching : Bool) : (connectAudio target switching).Does [.services] :=
    connectAudio_does (by simp) target switching
  apply quits_read_bind
  intro p
  apply ((does_when _ released).quits (by simp) (by simp)).and_then
  intro _
  apply ((asked _).quits (by simp) (by simp)).and_then
  intro result
  cases result with
  | ok =>
    have moved : (Job.update (moveTo (.connecting target))).EachStretch Quits :=
      fun p => p.moveTo_connecting_quits target
    refine quits_update_bind (fun p => ⟨rfl, rfl⟩) ?_
    exact moved.and_then fun _ => (sameUse_pure _).quits
  | error failure =>
    exact quits_update_bind (fun p => .rejected p target attempt failure) (sameUse_pure _).quits

/-- A request for audio enters no connected state by itself; audio has to come up first. -/
theorem connect_quits (requested : Option Address) (attempt : Nat) :
    (connect requested attempt).EachStretch Quits := by
  have dropped (p : Phone) : SameUse p (if attempt = 0 then p.dropRetry else p) := by
    split
    · rw [dropRetry_eq]
      exact ⟨rfl, rfl⟩
    · exact .refl p
  refine quits_update_bind dropped ?_
  apply quits_read_bind
  intro p
  split
  · refine quits_update_bind (fun p => ⟨rfl, rfl⟩) ?_
    exact quits_update_bind (fun p => .of_machine (Undisturbed.post p _).machine) (sameUse_pure _).quits
  · split
    · exact quits_update_bind (fun p => ⟨rfl, rfl⟩) (sameUse_pure _).quits
    · split
      · exact (sameUse_pure _).quits
      · exact startConnect_quits _ attempt

theorem retryConnect_quits (address : Address) (attempt : Nat) :
    (retryConnect address attempt).EachStretch Quits := by
  apply quits_read_bind
  intro p
  split
  · exact (sameUse_pure _).quits
  · split
    · exact (sameUse_pure _).quits
    · exact (connect_quits _ attempt).and_then fun _ => (sameUse_pure _).quits

theorem onConnectOutcome_same (p : Phone) (outcome : ConnectOutcome) :
    SameUse p (p.onConnectOutcome outcome) := by
  have touches : Touches [] p (p.onConnectOutcome outcome) := p.onConnectOutcome_touches outcome
  exact touches.sameUse (by simp) (by simp)

theorem perform_quits (action : RouteAction) : (perform action).EachStretch Quits := by
  cases action with
  | connectBluetooth address =>
    apply (connect_quits address 0).and_then
    intro outcome
    refine quits_update_bind (fun p => ⟨rfl, rfl⟩) ?_
    exact EachStretch.quits fun p => p.onConnectOutcome_same outcome
  | disconnectBluetooth =>
    exact (perform_does .disconnectBluetooth (List.Subset.refl _)).quits (by simp) (by simp)
  | setCommunicationDevice kind =>
    exact (perform_does (.setCommunicationDevice kind) (List.Subset.refl _)).quits (by simp) (by simp)
  | clearCommunicationDevice =>
    exact (perform_does .clearCommunicationDevice (List.Subset.refl _)).quits (by simp) (by simp)

theorem performAll_quits (actions : List RouteAction) : (performAll actions).EachStretch Quits := by
  have accounted (p : Phone) (before : RouteState) : SameUse p (p.onStateChanged before) := by
    have touches : Touches [] p (p.onStateChanged before) := p.onStateChanged_touches before
    exact touches.sameUse (by simp) (by simp)
  induction actions with
  | nil => exact (sameUse_pure ()).quits
  | cons action rest ih =>
    apply quits_read_bind
    intro p
    apply (perform_quits action).and_then
    intro _
    exact quits_update_bind (fun q => accounted q _) ih

theorem beginTransition_quits (origin destination : AudioRoute) (destinationActive : Bool) :
    (beginTransition origin destination destinationActive).EachStretch Quits := by
  refine quits_change_bind (fun p => ⟨rfl, rfl⟩) ?_
  rintro ⟨id, actions⟩
  have timed (p : Phone) : SameUse p (p.startDeadline id) := by
    rw [startDeadline_eq]
    exact ⟨rfl, rfl⟩
  refine quits_update_bind timed ?_
  apply (performAll_quits actions).and_then
  intro _
  exact quits_update_bind (fun p => .of_machine (track_machine p _)) (sameUse_pure _).quits

theorem moveToActualState_uses : moveToActualState.EachStretch Uses := by
  have found : carryingAudio.Does [] := carryingAudio_does
  apply (found.sameUse (by simp) (by simp)).bind Step.joins_before
  intro carrier
  cases carrier <;> exact fun p => p.moveTo_uses _

theorem onConnectionTimeout_uses (address : Address) : (onConnectionTimeout address).EachStretch Uses := by
  apply sameUse_read.bind Step.joins_before
  intro p
  split
  · have noted : (Job.update (note (.timedOut address))).EachStretch SameUse := fun p => ⟨rfl, rfl⟩
    exact noted.bind Step.joins_before fun _ => moveToActualState_uses
  · exact (sameUse_pure ()).quits.uses

theorem onAudioOn_uses (p : Phone) (address : Address) : Uses p (p.onAudioOn address) := by
  unfold onAudioOn
  split
  · exact p.moveTo_uses _
  · exact (SameUse.refl p).quits.uses

theorem onAudioLost_uses (address : Option Address) : (onAudioLost address).EachStretch Uses := by
  apply sameUse_read.bind Step.joins_before
  intro p
  dsimp only
  split
  · exact moveToActualState_uses
  · split
    · exact moveToActualState_uses
    · have noted (lost : Address) (state : RouteState) :
          (Job.update (note (.unexpectedLoss lost state))).EachStretch SameUse := fun p => ⟨rfl, rfl⟩
      apply (noted _ _).bind Step.joins_before
      exact fun _ p => (SameUse.refl p).quits.uses

end Phone

namespace Registry

variable {r : Registry} {address : Address} {profile : Profile}

theorem mem_profilesOf : profile ∈ r.profilesOf address ↔ r.holds profile address := by
  unfold profilesOf
  rw [List.mem_filter]
  cases profile <;> simp [connectPriority]

/-- A device that is removed from its last profile is not connected any more. -/
theorem profilesOf_eq_singleton : r.profilesOf address = [profile] ↔
    r.holds profile address ∧ ¬(r.disconnect address profile).2.isConnected address := by
  rw [isConnected_iff]
  constructor
  · intro last
    have held (other : Profile) : r.holds other address ↔ other = profile := by
      rw [← mem_profilesOf, last, List.mem_singleton]
    refine ⟨(held profile).mpr rfl, ?_⟩
    rintro ⟨other, kept⟩
    obtain ⟨other_held, spared⟩ := holds_disconnect.mp kept
    exact spared ⟨(held other).mp other_held, rfl⟩
  · rintro ⟨held, gone⟩
    -- A second profile would keep the device connected.
    have only (other : Profile) : r.holds other address = decide (other = profile) := by
      by_cases same : other = profile
      · rw [same, held, decide_eq_true rfl]
      · rw [decide_eq_false same]
        exact eq_false_of_ne_true fun other_held =>
          gone ⟨other, holds_disconnect.mpr ⟨other_held, fun h => same h.1⟩⟩
    unfold profilesOf
    simp only [only]
    cases profile <;> rfl

end Registry

namespace Phone
open Job

/-- A device that a message takes the last profile from is forgotten before audio is moved. -/
def bereft (message : Message) (p : Phone) : Phone :=
  { p with machine := { p.machine with recent := (p.losses message).foldl Usage.apply p.machine.recent } }

theorem bereft_of_spared {message : Message} (h : p.losses message = []) : p.bereft message = p := by
  unfold bereft
  rw [h]
  rfl

/-- Audio leaves a device that is gone if it was there. -/
def leave (address : Address) : Job Unit := do
  if (← Job.read).machine.state.liveAddress = some address then moveToActualState

theorem leave_uses (address : Address) : (leave address).EachStretch Uses := by
  apply sameUse_read.bind Step.joins_before
  intro p
  split
  · exact moveToActualState_uses
  · exact (sameUse_pure ()).quits.uses

/-- A device that was removed from a profile is only left if it is not connected any more. -/
theorem afterLoss_removed (p : Phone) (address : Address) :
    let told := p.tell .deviceListChanged
    afterLoss address true p = if p.registry.isConnected address then .done () told
      else leave address { told with machine := told.machine.unuse address } := by
  intro told
  have body : afterLoss address true p = (if p.registry.isConnected address then pure () else do
      Job.update fun q => { q with machine := q.machine.unuse address }
      leave address : Job Unit) told := rfl
  rw [body]
  split <;> rfl

theorem onDeviceLost_uses (p : Phone) (address : Address) (profile : Profile) :
    (onDeviceLost address profile p).EachStretch Uses (p.bereft (.deviceLost address profile)) := by
  let message : Message := .deviceLost address profile
  let q := (p.removeDevice address profile).2
  have removed : (p.removeDevice address profile).1 = p.registry.holds profile address :=
    Registry.disconnect_fst
  show (afterLoss address (p.removeDevice address profile).1 q).EachStretch Uses (p.bereft message)
  rw [removed]
  -- With its last profile the device is forgotten, and only after that audio leaves it.
  by_cases last : p.registry.profilesOf address = [profile]
  · obtain ⟨held, gone⟩ := Registry.profilesOf_eq_singleton.mp last
    have losses : p.losses message = [.lost address] := if_pos last
    let told := q.tell .deviceListChanged
    let forgotten : Phone := { told with machine := told.machine.unuse address }
    have same : SameUse (p.bereft message) forgotten := by
      unfold bereft
      rw [losses]
      exact ⟨rfl, rfl⟩
    have left : ¬q.registry.isConnected address := gone
    rw [held, afterLoss_removed, if_neg left]
    exact (leave_uses address forgotten).start (fun r uses => same.uses_of uses) fun _ _ => id
  · have spared : p.losses message = [] := if_neg last
    rw [bereft_of_spared spared]
    cases held : p.registry.holds profile address with
    | false => exact (SameUse.of_machine rfl).quits.uses
    | true =>
      have stays : q.registry.isConnected address :=
        not_not.mp fun gone => last (Registry.profilesOf_eq_singleton.mpr ⟨held, gone⟩)
      rw [afterLoss_removed, if_pos stays]
      exact (SameUse.of_machine rfl).quits.uses

/-- Every message ranks the devices by what it takes from them and by what it moves audio to. -/
theorem act_uses (p : Phone) (message : Message) :
    (act message p).EachStretch Uses (p.bereft message) := by
  -- Most messages have no part in the state, and then they rank nothing.
  have plain {message : Message} {cs : List Concern} (does : (act message).Does cs)
      (unmoved : .state ∉ cs) (present : ∀ address, .absence address ∉ cs)
      (spared : p.losses message = []) : (act message p).EachStretch Uses (p.bereft message) := by
    rw [bereft_of_spared spared]
    exact (does.quits unmoved present).uses p
  have outcome (outcome : ConnectOutcome) : (Job.update (onConnectOutcome outcome)).EachStretch Quits :=
    EachStretch.quits fun p => p.onConnectOutcome_same outcome
  cases message with
  | deviceLost address profile => exact p.onDeviceLost_uses address profile
  | connect address => exact ((connect_quits address 0).and_then outcome).uses p
  | retryConnect address attempt =>
    apply ((retryConnect_quits address attempt).and_then ?_).uses p
    intro result
    cases result with
    | none => exact (sameUse_pure ()).quits
    | some found => exact outcome found
  | connectionTimeout address => exact onConnectionTimeout_uses address p
  | audioOn address => exact p.onAudioOn_uses address
  | audioLost address => exact onAudioLost_uses address p
  | beginTransition origin destination destinationActive ticket =>
    apply ((beginTransition_quits origin destination destinationActive).and_then ?_).uses p
    intro id
    exact EachStretch.quits fun p => ⟨rfl, rfl⟩
  | deviceAdded | activeDeviceChanged | disconnect | confirmation | transitionFailed | transitionTimeout
  | switchToBaseline | query => exact plain (act_does _) (by simp) (by simp) rfl

theorem handle_uses (p : Phone) (message : Message) :
    (handle message p).EachStretch Uses (p.bereft message) := by
  -- What comes after the message only tells the transition of the change of state.
  have accounted (q : Phone) : SameUse q (q.accounted message p.machine.state) := by
    have touches : Touches [] q (q.accounted message p.machine.state) := q.accounted_touches message _
    exact touches.sameUse (by simp) (by simp)
  let noted := p.record (.handled message)
  have noting : SameUse (p.bereft message) (noted.bereft message) := ⟨rfl, rfl⟩
  have acted : (act message noted).EachStretch Uses (p.bereft message) :=
    (noted.act_uses message).start (fun r uses => noting.uses_of uses) fun _ _ => id
  rw [handle_eq]
  exact acted.bind Step.joins_after fun _ q => accounted q

end Phone

theorem MachineCall.job_uses (c : MachineCall) (p : Phone) :
    (c.job p).EachStretch Uses (p.bereft c.message) := by
  cases c with
  | deviceAdded device profile => exact p.act_uses (.deviceAdded device profile)
  | deviceLost address profile => exact p.act_uses (.deviceLost address profile)
  | activeDeviceChanged profile address => exact p.act_uses (.activeDeviceChanged profile address)
  | connect requested attempt =>
    exact ((Phone.connect_quits requested attempt).and_then fun _ => (Job.sameUse_pure ()).quits).uses p
  | retryConnect address attempt =>
    exact ((Phone.retryConnect_quits address attempt).and_then fun _ => (Job.sameUse_pure ()).quits).uses p
  | disconnect => exact p.act_uses .disconnect
  | connectionTimeout address => exact p.act_uses (.connectionTimeout address)
  | audioOn address => exact p.act_uses (.audioOn address)
  | audioLost address => exact p.act_uses (.audioLost address)

end CallAudio

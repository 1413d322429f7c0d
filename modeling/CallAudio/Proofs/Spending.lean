import CallAudio.Proofs.Automaton
import CallAudio.Proofs.Credit
import CallAudio.Proofs.Surroundings

/-! What the handling of messages spends of the budget for requests of audio. While a message waits, all that
it may still spend is set aside. -/
namespace CallAudio

variable {α β : Type}

/-- What the step may still spend is set aside wherever it waits, and at its end `post` holds. -/
def Step.Spends (post : α → Phone → Prop) : Step α → Prop
  | .done value q => post value q
  | .wait q resume => ∃ n, q.Solvent n ∧
      ∀ attached r, Phone.Solvent n r → (resume attached r).Spends post

namespace Step

variable {s : Step α} {post : α → Phone → Prop} {cs : List Concern} {p : Phone} {n : Nat}

theorem Spends.bind {next : α → Job β} {post' : β → Phone → Prop} (h : s.Spends post)
    (hn : ∀ value q, post value q → (next value q).Spends post') : (s.bind next).Spends post' := by
  induction s with
  | done value q => exact hn value q h
  | wait q resume ih =>
    obtain ⟨n, aside, rest⟩ := h
    exact ⟨n, aside, fun attached r hr => ih attached r (rest attached r hr)⟩

/-- A step that has nothing to do with requests keeps what was set aside. -/
theorem Does.spends (h : s.Does cs p) (unserved : .services ∉ cs) (unasked : .retry ∉ cs)
    (unstarted : ∀ origin destination destinationActive,
      .start origin destination destinationActive ∉ cs) (hp : p.Solvent n) :
    s.Spends fun _ q => q.Solvent n := by
  have kept (p q : Phone) (touch : Touch cs p q) (hp : p.Solvent n) : q.Solvent n :=
    hp.unspent (touch.unspent unserved unasked unstarted)
  induction s generalizing p with
  | done value q => exact Touches.keeps h kept hp
  | wait q resume ih =>
    refine ⟨n, h.1.keeps kept hp, fun attached r hr => ?_⟩
    exact ih attached r (h.2 attached r) hr

end Step

/-- The job spends nothing of what is set aside. -/
def Job.Thrifty (job : Job α) : Prop :=
  ∀ n p, Phone.Solvent n p → (job p).Spends fun _ q => q.Solvent n

namespace Job

theorem thrifty_pure (value : α) : (pure value : Job α).Thrifty := fun _ _ hp => hp

theorem thrifty_read : Job.read.Thrifty := fun _ _ hp => hp

theorem thrifty_update {f : Phone → Phone} (h : ∀ p, Phone.Unspent p (f p)) :
    (Job.update f).Thrifty := fun _ p hp => hp.unspent (h p)

theorem thrifty_change {f : Phone → α × Phone} (h : ∀ p, Phone.Unspent p (f p).2) :
    (Job.change f).Thrifty := fun _ p hp => hp.unspent (h p)

theorem thrifty_awaitHeadset : Job.awaitHeadset.Thrifty := by
  intro n p hp
  unfold Job.awaitHeadset
  split
  · exact hp
  · exact ⟨n, hp, fun _ _ hr => hr⟩

theorem Thrifty.bind {job : Job α} {next : α → Job β} (h : job.Thrifty)
    (hn : ∀ value, (next value).Thrifty) : (job >>= next).Thrifty := by
  intro n p hp
  apply Step.Spends.bind (h n p hp)
  intro value q hq
  exact hn value n q hq

section
variable {p : Phone} {post : β → Phone → Prop}

theorem spends_update_bind {f : Phone → Phone} {next : Unit → Job β}
    (h : Step.Spends post (next () (f p))) : Step.Spends post ((Job.update f >>= next) p) := h

theorem spends_read_bind {next : Phone → Job β} (h : Step.Spends post (next p p)) :
    Step.Spends post ((Job.read >>= next) p) := h

end

theorem Thrifty.spends {job : Job α} (h : job.Thrifty) {n : Nat} {p : Phone} (hp : p.Solvent n) :
    Step.Spends (fun _ q => q.Solvent n) (job p) := h n p hp

end Job

namespace Phone
open Job

variable {p : Phone} {n : Nat}

theorem Unspent.touches {q : Phone} (h : Touches [] p q) : Unspent p q :=
  h.keeps (fun _ _ touch way => way.trans (touch.unspent (by simp) (by simp) (by simp))) (refl p)

theorem disconnectAudio_thrifty : disconnectAudio.Thrifty := by
  apply Thrifty.bind (thrifty_update fun p => .record p rfl)
  intro _
  apply Thrifty.bind thrifty_awaitHeadset
  intro attached
  apply thrifty_update
  intro p
  cases attached
  · exact .releaseCommunicationDevice p
  · have torn : Unspent p p.disconnectSco := .of_same rfl rfl rfl
    exact torn.trans (.releaseCommunicationDevice _)

theorem disconnect_thrifty : disconnect.Thrifty := by
  apply Thrifty.bind (thrifty_update .dropRetry)
  intro _
  have noted (p : Phone) : Unspent p (p.note (.disconnectRequested p.machine.state)) :=
    .of_same rfl rfl rfl
  apply Thrifty.bind (thrifty_update noted)
  intro _
  exact disconnectAudio_thrifty

/-- A note in the journal spends the requests that it counts for, and is paid for new connects. -/
theorem Solvent.record (happening : Happening) (hp : p.Solvent (n + happening.audioRequests))
    (proper : ∀ message ∈ happening.message?, message.Proper) :
    (p.record happening).Solvent (n + (maxRetries + 1) * happening.newConnects) := by
  refine ⟨?_, hp.due, ?_⟩
  · change tally _ (p.journal ++ [_]) + (p.dueRetries.map Message.credit).sum + _ ≤
      _ * tally _ (p.journal ++ [_])
    rw [tally_snoc, tally_snoc, Nat.mul_add]
    have covered := hp.covered
    omega
  · intro message mem
    change message ∈ handledMessages (p.journal ++ [_]) at mem
    rw [handledMessages_snoc] at mem
    rcases List.mem_append.mp mem with before | now
    · exact hp.handled message before
    · exact proper message (Option.mem_toList.mp now)

/-- A request for audio is one request. -/
theorem connectAudio_spends (hp : p.Solvent (n + 1)) (address : Address) (switching : Bool) :
    (connectAudio address switching p).Spends fun _ q => q.Solvent n := by
  have finished : (finishConnect address switching).Thrifty := by
    refine Thrifty.bind (thrifty_update fun p => ?_) fun _ => thrifty_pure _
    cases switching
    · exact .makeCommunicationDevice p address
    · exact .refl p
  have activated (use : ActiveUse) : (Job.change (activate address use)).Thrifty :=
    thrifty_change fun p => .of_same rfl rfl rfl
  have linked : (Job.change connectSco).Thrifty := thrifty_change fun p => .of_same rfl rfl rfl
  have requested : (p.record (.audioRequested address)).Solvent n :=
    Solvent.record (.audioRequested address) hp fun _ mem => absurd mem (Option.not_mem_none _)
  unfold connectAudio
  apply spends_update_bind
  apply Thrifty.spends _ requested
  apply Thrifty.bind thrifty_read
  intro p
  split
  · exact thrifty_pure _
  · apply Thrifty.bind thrifty_awaitHeadset
    intro attached
    split
    · apply Thrifty.bind (activated _)
      intro accepted
      split
      · apply Thrifty.bind linked
        intro reply
        split
        · exact finished
        · exact thrifty_pure _
      · exact thrifty_pure _
    · exact thrifty_pure _
  · apply Thrifty.bind (activated _)
    intro accepted
    split
    · exact finished
    · exact thrifty_pure _

theorem dueRetries_scheduleRetry (p : Phone) (target : Address) (attempt : Nat) :
    (p.scheduleRetry target attempt).dueRetries ≤ .retryConnect target attempt ::ₘ p.dueRetries := by
  let retry : Message := .retryConnect target attempt
  let armed := p.timers.arm (p.now + (p.config.backoff attempt).toNanos) retry
  have added : armed.retries = retry ::ₘ p.timers.retries := Timers.retries_arm _ _ retry
  rw [scheduleRetry_eq]
  calc retriesAmong p.inbox + (armed.release p.machine.retry).retries
      ≤ retriesAmong p.inbox + armed.retries := Multiset.add_le_add_left (armed.retries_release _)
    _ = retry ::ₘ p.dueRetries := by rw [added, Multiset.add_cons, dueRetries]

/-- What a rejected attempt set aside for later ones goes to its retry. -/
theorem Solvent.onRejected {attempt : Nat} (hp : p.Solvent (n + (maxRetries - attempt)))
    (target : Address) (failure : ConnectFailure) : (p.onRejected target attempt failure).Solvent n := by
  let noted := p.note (.connectFailed target attempt failure)
  have ready : noted.Solvent (n + (maxRetries - attempt)) := hp.unspent (.of_same rfl rfl rfl)
  unfold Phone.onRejected
  dsimp only
  split
  · rename_i left
    have due := noted.dueRetries_scheduleRetry target (attempt + 1)
    have journal : (noted.scheduleRetry target (attempt + 1)).journal = noted.journal :=
      congrArg RouteView.journal (noted.view_scheduleRetry target (attempt + 1))
    refine ⟨?_, fun message mem => ?_, journal ▸ ready.handled⟩
    · have credit := credit_mono due
      rw [Multiset.map_cons, Multiset.sum_cons] at credit
      have covered := ready.covered
      change tally _ (noted.scheduleRetry target (attempt + 1)).journal +
        ((noted.scheduleRetry target (attempt + 1)).dueRetries.map Message.credit).sum + n ≤ _
      rw [journal]
      simp only [Message.credit] at credit
      omega
    · rcases Multiset.mem_cons.mp (Multiset.mem_of_le due mem) with rfl | before
      · exact ⟨Nat.le_add_left 1 attempt, left⟩
      · exact ready.due message before
  · exact ((ready.mono (Nat.le_add_right _ _)).unspent (.dropRetry _)).unspent (.post _ rfl)

/-- A connect that is made as one of the attempts spends what is left for it and later ones. -/
theorem startConnect_spends {attempt : Nat} (left : attempt ≤ maxRetries)
    (hp : p.Solvent (n + (maxRetries + 1 - attempt))) (target : Address) :
    (startConnect target attempt p).Spends fun _ q => q.Solvent n := by
  have aside : n + (maxRetries + 1 - attempt) = n + (maxRetries - attempt) + 1 := by omega
  rw [aside] at hp
  let switching := p.isSwitching target
  have released : (Job.when switching disconnectAudio).Thrifty := by
    cases switching
    · exact thrifty_pure ()
    · exact disconnectAudio_thrifty
  apply Step.Spends.bind (released _ p hp)
  intro _ q hq
  apply Step.Spends.bind (connectAudio_spends hq target switching)
  intro result r hr
  cases result with
  | ok =>
    have told : Unspent r (r.tell (.audioConnecting target)) := .record r rfl
    exact (hr.mono (Nat.le_add_right _ _)).unspent (told.trans (.moveTo _ _))
  | error failure => exact hr.onRejected target failure

theorem connect_spends {attempt : Nat} (left : attempt ≤ maxRetries)
    (hp : p.Solvent (n + (maxRetries + 1 - attempt))) (requested : Option Address) :
    (connect requested attempt p).Spends fun _ q => q.Solvent n := by
  have dropped : Unspent p (p.requested attempt) := by
    unfold Phone.requested
    split
    · exact .dropRetry p
    · exact .refl p
  have ready := hp.unspent dropped
  have kept := ready.mono (Nat.le_add_right n _)
  unfold connect
  apply spends_update_bind
  change Step.Spends _ ((Job.read >>= _) (p.requested attempt))
  generalize p.requested attempt = q at ready kept
  apply spends_read_bind
  cases q.registry.connectTarget requested q.machine.recent with
  | none =>
    have noted : Unspent q (q.note (.noDevices requested)) := .of_same rfl rfl rfl
    exact kept.unspent (noted.trans (.post _ rfl))
  | some target =>
    dsimp only
    split
    · exact kept.unspent (.record _ rfl)
    · split
      · exact kept
      · exact startConnect_spends left ready target

/-- A retry spends its credit. -/
theorem retryConnect_spends {address : Address} {attempt : Nat}
    (hp : p.Solvent (n + (Message.retryConnect address attempt).credit)) :
    (retryConnect address attempt p).Spends fun _ q => q.Solvent n := by
  have kept := hp.mono (Nat.le_add_right n _)
  unfold retryConnect
  apply spends_read_bind
  split
  · exact kept
  · split
    · exact kept
    · rename_i left
      apply Step.Spends.bind (connect_spends (Nat.not_lt.mp left) hp _)
      intro _ q hq
      exact hq

/-- An action that connects spends what its attempts may. -/
theorem perform_spends (action : RouteAction)
    (hp : p.Solvent (n + (maxRetries + 1) * [action].countP RouteAction.isConnect)) :
    (perform action p).Spends fun _ q => q.Solvent n := by
  have performed : (Job.update (record (.performed action))).Thrifty :=
    thrifty_update fun p => .record p rfl
  cases action with
  | connectBluetooth address =>
    apply Step.Spends.bind (connect_spends (Nat.zero_le _) hp address)
    intro outcome q hq
    have noted : Unspent q (q.record (.performed (.connectBluetooth address))) := .record q rfl
    exact hq.unspent (noted.trans (.touches (onConnectOutcome_touches _ outcome)))
  | disconnectBluetooth => exact Step.Spends.bind (disconnect_thrifty n p hp) fun _ => performed n
  | setCommunicationDevice kind =>
    have chosen : (Job.update (setCommunicationKind kind)).Thrifty :=
      thrifty_update fun p => .setCommunicationKind p kind
    exact Step.Spends.bind (performed n p hp) fun _ => chosen n
  | clearCommunicationDevice =>
    have cleared : (Job.update clearCommunicationDevice).Thrifty :=
      thrifty_update fun p => .of_same rfl rfl rfl
    exact Step.Spends.bind (cleared n p hp) fun _ => performed n

theorem performAll_spends (actions : List RouteAction)
    (hp : p.Solvent (n + (maxRetries + 1) * actions.countP RouteAction.isConnect)) :
    (performAll actions p).Spends fun _ q => q.Solvent n := by
  induction actions generalizing p with
  | nil => exact hp
  | cons action rest ih =>
    have aside : n + (maxRetries + 1) * (action :: rest).countP RouteAction.isConnect =
        n + (maxRetries + 1) * rest.countP RouteAction.isConnect +
          (maxRetries + 1) * [action].countP RouteAction.isConnect := by
      rw [List.countP_cons, List.countP_singleton, Nat.mul_add, Nat.add_assoc]
    rw [aside] at hp
    unfold performAll
    apply spends_read_bind
    apply Step.Spends.bind (perform_spends action hp)
    intro _ q hq
    apply spends_update_bind
    apply ih
    exact hq.unspent (.touches (q.onStateChanged_touches _))

/-- What is set aside for a message covers its handling. -/
theorem handle_spends (message : Message) (hp : (p.record (.handled message)).Solvent message.budget) :
    (handle message p).Spends fun _ q => q.Solvent 0 := by
  have simple (unserved : .services ∉ message.concerns) (unasked : .retry ∉ message.concerns)
      (unstarted : ∀ origin destination destinationActive,
        .start origin destination destinationActive ∉ message.concerns) :
      (handle message p).Spends fun _ q => q.Solvent 0 :=
    (p.handle_does message).spends unserved unasked unstarted (hp.mono (Nat.zero_le _))
  have accounted {q : Phone} (hq : q.Solvent 0) :
      (q.accounted message p.machine.state).Solvent 0 :=
    hq.unspent (.touches (q.accounted_touches _ _))
  have budget : message.budget = 0 + message.budget := (Nat.zero_add _).symm
  rw [budget] at hp
  cases message with
  | connect requested =>
    rw [handle_eq]
    refine Step.Spends.bind ?_ fun _ _ => accounted
    apply Step.Spends.bind (connect_spends (Nat.zero_le _) hp requested)
    intro outcome q hq
    exact hq.unspent (.touches (q.onConnectOutcome_touches outcome))
  | retryConnect address attempt =>
    rw [handle_eq]
    refine Step.Spends.bind ?_ fun _ _ => accounted
    apply Step.Spends.bind (retryConnect_spends hp)
    intro result q hq
    cases result with
    | none => exact hq
    | some outcome => exact hq.unspent (.touches (q.onConnectOutcome_touches outcome))
  | disconnect =>
    rw [handle_eq]
    exact Step.Spends.bind (disconnect_thrifty 0 _ hp) fun _ _ => accounted
  | beginTransition origin destination destinationActive ticket =>
    let actions := (p.tracker.begin origin destination destinationActive).2.1
    let noted := p.record (.handled (.beginTransition origin destination destinationActive ticket))
    have begun : (noted.begun origin destination destinationActive).Solvent
        (0 + (maxRetries + 1) * actions.countP RouteAction.isConnect) := by
      have tracked : ({ noted with tracker := (p.tracker.begin origin destination destinationActive).2.2 } :
        Phone).Solvent 0 := hp.unspent (.of_same rfl rfl rfl)
      exact Solvent.record (.begun p.tracker.nextId actions) tracked fun _ mem =>
        absurd mem (Option.not_mem_none _)
    have prepared : (noted.prepared origin destination destinationActive).Solvent
        (0 + (maxRetries + 1) * actions.countP RouteAction.isConnect) :=
      begun.unspent (.startDeadline _ _)
    rw [handle_begin_eq]
    apply Step.Spends.bind (performAll_spends actions prepared)
    intro _ q hq
    exact hq.unspent (.touches (q.concluded_touches ticket _))
  | _ => exact simple (by simp) (by simp) (by simp)

end Phone

/-- Retries are posted by timers only. -/
def Outside.SparesRetries : Outside → Prop
  | .post message => message.isRetry = false
  | _ => True

namespace Phone

variable {p : Phone} {n : Nat}

theorem Unspent.postAll (p : Phone) {messages : List Message}
    (h : ∀ message ∈ messages, message.isRetry = false) : Unspent p (p.postAll messages) := by
  induction messages generalizing p with
  | nil => exact refl p
  | cons message rest ih =>
    have first : Unspent p (p.post message) := post p (h message List.mem_cons_self)
    exact first.trans (ih _ fun m hm => h m (List.mem_cons_of_mem message hm))

/-- A retry that fires is due as before. -/
theorem Unspent.fired (p : Phone) {t : Timer Message} (h : t ∈ p.timers.armed) :
    Unspent p (({ p with timers := p.timers.cancel t.id } : Phone).post t.value) := by
  have left := Timers.retries_cancel h
  unfold Phone.post
  split
  · exact of_timers rfl rfl ((Multiset.le_add_left _ _).trans left)
  · refine ⟨⟨[], (List.append_nil _).symm, List.forall_mem_nil _⟩, ?_⟩
    change retriesAmong (p.inbox ++ [t.value]) + (p.timers.cancel t.id).retries ≤ _
    rw [retriesAmong_append, Multiset.add_assoc]
    exact Multiset.add_le_add_left left

theorem Unspent.outside (p : Phone) (o : Outside) (ho : o.SparesRetries) : Unspent p (p.outside o) := by
  have intrusion := p.outside_intrusion o
  generalize p.outside o = q at intrusion ⊢
  cases intrusion with
  | around platform registry dispatcher now messages _ hm =>
    have aside : Unspent p { p with platform, registry, dispatcher, now } := of_same rfl rfl rfl
    refine aside.trans (postAll _ fun message mem => ?_)
    rcases hm message mem with rfl | none
    · exact ho
    · rw [Message.isRetry, none]
      rfl
  | fired t _ mem => exact fired p mem

/-- A message that is taken from the inbox brings what may be spent on it. -/
theorem Solvent.taken {message : Message} {rest : List Message} (hp : p.Solvent 0)
    (h : p.inbox = message :: rest) :
    (({ p with inbox := rest } : Phone).record (.handled message)).Solvent message.budget := by
  have due : p.dueRetries = retriesAmong [message] + ({ p with inbox := rest } : Phone).dueRetries := by
    unfold dueRetries
    rw [h, ← Multiset.add_assoc, ← retriesAmong_append]
    rfl
  have credit : (p.dueRetries.map Message.credit).sum = message.credit +
      (({ p with inbox := rest } : Phone).dueRetries.map Message.credit).sum := by
    rw [due, Multiset.map_add, Multiset.sum_add, credit_retriesAmong_single]
  have proper : message.Proper := by
    cases message with
    | retryConnect => exact hp.due _ (Multiset.mem_of_le (due ▸ Multiset.le_add_right _ _) List.mem_cons_self)
    | _ => trivial
  have ready : ({ p with inbox := rest } : Phone).Solvent message.credit := by
    refine ⟨?_, fun m mem => hp.due m (due ▸ Multiset.mem_add.mpr (Or.inr mem)), hp.handled⟩
    have covered := hp.covered
    rw [credit] at covered
    change tally _ p.journal + _ + _ ≤ _ * tally _ p.journal
    omega
  have budget : message.budget = message.credit + (maxRetries + 1) * (Happening.handled message).newConnects := by
    cases message <;> rfl
  rw [budget]
  refine Solvent.record (.handled message) ready fun m hm => ?_
  obtain rfl := Option.some.inj hm
  exact proper

end Phone

namespace Thread

variable {t u : Thread}

/-- What the message in progress may still spend is set aside. -/
def Solvent (t : Thread) : Prop :=
  match t.loop with
  | .running (.waiting _ resume) => ∃ n, t.phone.Solvent n ∧
      ∀ attached r, Phone.Solvent n r → (resume attached r).Spends fun _ q => q.Solvent 0
  | _ => t.phone.Solvent 0

theorem Solvent.covered (h : t.Solvent) : t.phone.Solvent 0 := by
  unfold Solvent at h
  split at h
  · obtain ⟨n, aside, -⟩ := h
    exact aside.mono (Nat.zero_le n)
  · exact h

theorem solvent_ofStep {s : Step Unit} (h : s.Spends fun _ q => q.Solvent 0) :
    Solvent ⟨(Work.ofStep s).2, .running (Work.ofStep s).1⟩ := by
  cases s with
  | done value q => exact h
  | wait q resume => exact h

theorem Solvent.move (h : t.Solvent) (m : ThreadMove) (hm : m.Only Outside.SparesRetries) :
    (t.move m).Solvent := by
  cases m with
  | start =>
    obtain ⟨phone, loop⟩ := t
    cases loop with
    | unstarted | running | gone => exact h
  | stop => exact h.covered.unspent ⟨⟨[], (List.append_nil _).symm, List.forall_mem_nil _⟩, Multiset.zero_le _⟩
  | handle =>
    change (t.handleNext?.getD t).Solvent
    cases hn : t.handleNext? with
    | none => exact h
    | some u =>
      obtain ⟨-, message, rest, hi, rfl⟩ := handleNext?_cases hn
      exact solvent_ofStep (Phone.handle_spends message (h.covered.taken hi))
  | resume =>
    change (t.resume?.getD t).Solvent
    cases hn : t.resume? with
    | none => exact h
    | some u =>
      obtain ⟨deadline, resume, attached, hl, rfl⟩ := resume?_cases hn
      unfold Solvent at h
      rw [hl] at h
      obtain ⟨n, aside, rest⟩ := h
      exact solvent_ofStep (rest attached _ aside)
  | outside o =>
    obtain ⟨phone, loop⟩ := t
    have unspent : phone.Unspent (phone.outside o) := .outside phone o hm
    cases loop with
    | unstarted | gone => exact Phone.Solvent.unspent h unspent
    | running work =>
      cases work with
      | finished => exact Phone.Solvent.unspent h unspent
      | waiting =>
        obtain ⟨n, aside, rest⟩ := h
        exact ⟨n, aside.unspent unspent, rest⟩

theorem Solvent.run (h : t.Solvent) (moves : List ThreadMove)
    (hm : ∀ m ∈ moves, m.Only Outside.SparesRetries) : (t.run moves).Solvent := by
  induction moves generalizing t with
  | nil => exact h
  | cons m rest ih =>
    have moved : (t.move m).Solvent := h.move m (hm m List.mem_cons_self)
    exact ih moved fun n hn => hm n (List.mem_cons_of_mem m hn)

theorem solvent_fresh (config : RouteConfig) (attached : List Profile) :
    (fresh config attached).Solvent :=
  ⟨Nat.zero_le _, fun _ mem => absurd mem (Multiset.notMem_zero _), fun _ mem => nomatch mem⟩

end Thread

end CallAudio

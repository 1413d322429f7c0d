import CallAudio.Proofs.Arises

/-! What goes on outside while a step waits, told apart from what the step does itself. A step that leaves
alone what things outside look at ends beside the phone on which only they have gone on. -/
namespace CallAudio

variable {α β : Type}

namespace Step

/-- All that goes on outside during the waits that the step comes to. -/
def meanwhile : Step α → Pauses → List Outside
  | .done _ _, _ => []
  | .wait p resume, pauses =>
    (pauses 0).meanwhile ++
      (resume (pauses 0).attached (p.outsides (pauses 0).meanwhile)).meanwhile pauses.rest

theorem meanwhile_bind (s : Step α) (next : α → Job β) (pauses : Pauses) :
    (s.bind next).meanwhile pauses = s.meanwhile pauses ++
      (next (s.finish pauses).value (s.finish pauses).phone).meanwhile (s.finish pauses).pauses := by
  induction s generalizing pauses with
  | done => rfl
  | wait p resume ih => exact (congrArg (_ ++ ·) (ih _ _ _)).trans (List.append_assoc ..).symm

end Step

/-- The failures of the transition that messages report. -/
def failuresAmong (messages : List Message) : List (Option Address) :=
  messages.filterMap fun
    | .transitionFailed address => some address
    | _ => none

theorem failuresAmong_append (messages more : List Message) :
    failuresAmong (messages ++ more) = failuresAmong messages ++ failuresAmong more :=
  List.filterMap_append

theorem failuresAmong_map (xs : List α) {f : α → Message} (silent : ∀ x, failuresAmong [f x] = []) :
    failuresAmong (xs.map f) = [] := by
  induction xs with
  | nil => rfl
  | cons x rest ih =>
    calc failuresAmong ((x :: rest).map f)
      _ = failuresAmong [f x] ++ failuresAmong (rest.map f) := failuresAmong_append [f x] (rest.map f)
      _ = [] := by rw [silent, ih, List.append_nil]

/-- Timers report no failures. -/
theorem failuresAmong_of_slot {message : Message} {s : Slot} (h : message.slot? = some s) :
    failuresAmong [message] = [] := by
  cases message <;> first | rfl | cases h

theorem PlatformEvent.failuresAmong_messages (event : PlatformEvent) (inCall : Bool) :
    failuresAmong (event.messages inCall) = [] := by
  unfold messages
  split <;> try rfl
  cases inCall <;> rfl

namespace Outside

def span : Outside → Nat
  | .pass span => span
  | _ => 0

def failures : Outside → List (Option Address)
  | .post message => failuresAmong [message]
  | _ => []

end Outside

namespace Phone

def failures (p : Phone) : List (Option Address) := failuresAmong p.inbox

variable {p q r : Phone}

theorem failures_post (opened : p.closed = false) (message : Message) :
    (p.post message).failures = p.failures ++ failuresAmong [message] := by
  rw [post_eq, opened]
  exact failuresAmong_append _ _

theorem failures_postAll (opened : p.closed = false) (messages : List Message) :
    (p.postAll messages).failures = p.failures ++ failuresAmong messages := by
  rw [postAll_eq, opened]
  exact failuresAmong_append _ _

/-- What something outside does, other than a timer: it may take time, and only a post by hand reports a
failure. -/
structure Around (o : Outside) (p q : Phone) : Prop where
  config : q.config = p.config
  now : q.now = p.now + o.span
  timers : q.timers = p.timers
  failures : q.failures = p.failures ++ o.failures

/-- Messages that are posted after a change that leaves timers and inbox alone. -/
theorem Around.of_postAll {o : Outside} (opened : p.closed = false) (messages : List Message)
    (config : q.config = p.config) (now : q.now = p.now + o.span) (timers : q.timers = p.timers)
    (inbox : q.inbox = p.inbox) (closed : q.closed = p.closed) (reported : failuresAmong messages = o.failures) :
    Around o p (q.postAll messages) := by
  refine ⟨?_, ?_, ?_, ?_⟩
  · rwa [postAll_eq]
  · rwa [postAll_eq]
  · rwa [postAll_eq]
  · rw [failures_postAll (closed.trans opened), reported]
    exact congrArg (failuresAmong · ++ o.failures) inbox

theorem Around.of_onEvent {o : Outside} (opened : p.closed = false) (event : Option PlatformEvent)
    (span : o.span = 0) (silent : o.failures = []) : Around o p (Bench.onEvent event p).2 := by
  have now : p.now = p.now + o.span := by rw [span, Nat.add_zero]
  cases event with
  | none => exact .of_postAll opened [] rfl now rfl rfl rfl silent.symm
  | some event =>
    exact .of_postAll opened _ rfl now rfl rfl rfl ((event.failuresAmong_messages _).trans silent.symm)

theorem outside_around (opened : p.closed = false) {o : Outside} (none : ∀ timer, o ≠ .fire timer) :
    Around o p (p.outside o) := by
  have unposted (q : Phone) (config : q.config = p.config) (now : q.now = p.now + o.span)
      (timers : q.timers = p.timers) (inbox : q.inbox = p.inbox) (closed : q.closed = p.closed)
      (silent : o.failures = []) : Around o p q :=
    .of_postAll opened [] config now timers inbox closed silent.symm
  cases o with
  | post message => exact .of_postAll opened [message] rfl rfl rfl rfl rfl rfl
  | event act =>
    cases act with
    | serviceAttached profile => exact unposted (p.attach profile) rfl rfl rfl rfl rfl rfl
    | serviceLost profile =>
      exact .of_postAll opened _ rfl rfl rfl rfl rfl (failuresAmong_map _ fun _ => rfl)
    | setInCall => exact unposted _ rfl rfl rfl rfl rfl rfl
    | event | rawConnection | rawSco => exact .of_onEvent opened _ rfl rfl
    | communicationDeviceChanged device =>
      exact .of_postAll opened _ rfl rfl rfl rfl rfl (failuresAmong_map _ fun _ => rfl)
  | registry act =>
    cases act with
    | makeCommunicationDevice address =>
      obtain ⟨platform, communication, h⟩ := p.makeCommunicationDevice_eq address
      change Around _ p (p.makeCommunicationDevice address).2
      rw [h]
      exact unposted _ rfl rfl rfl rfl rfl rfl
    | _ => exact unposted _ rfl rfl rfl rfl rfl rfl
  | communication | platform | pass => exact unposted _ rfl rfl rfl rfl rfl rfl
  | fire timer => exact absurd rfl (none timer)

/-- The timers are as they should be, and messages arrive. -/
structure Steady (p : Phone) : Prop where
  sound : p.alarms.Sound
  opened : p.closed = false

theorem Arises.steady {config : RouteConfig} {attached : List Profile} (h : p.Arises config attached) :
    p.Steady := ⟨h.sound, h.opened⟩

theorem Steady.outside (h : p.Steady) (o : Outside) : (p.outside o).Steady :=
  ⟨alarms_sound_outside h.sound o, opened_outside o h.opened⟩

/-- A timer that is due fires once, and reports no failure; nothing comes of any other number. -/
theorem fireTimer_cases (h : p.Steady) (timer : Nat) :
    (p.fireTimer timer).config = p.config ∧ (p.fireTimer timer).now = p.now ∧
      (p.fireTimer timer).failures = p.failures ∧
      (p.fireTimer timer).timers.armed = p.timers.armed.filter fun t => ¬(t.id = timer ∧ t.due ≤ p.now) := by
  unfold fireTimer
  cases found : p.timers.armed.find? fun t => t.id = timer with
  | none =>
    refine ⟨rfl, rfl, rfl, (List.filter_eq_self.mpr fun t mem => decide_eq_true ?_).symm⟩
    have other : t.id ≠ timer := of_decide_eq_false
      (Bool.eq_false_iff.mpr (List.find?_eq_none.mp found t mem))
    exact fun fires => other fires.1
  | some t =>
    have mem : t ∈ p.timers.armed := List.mem_of_find?_eq_some found
    have selected := List.find?_some found
    have number : t.id = timer := of_decide_eq_true selected
    -- The number tells the timer, so what holds of the one that is found holds of all with its number.
    have only {u : Timer Message} (hu : u ∈ p.timers.armed) (same : u.id = timer) : u = t :=
      List.inj_on_of_nodup_map h.sound.nodup hu mem (same.trans number.symm)
    dsimp only
    split
    · rename_i due
      obtain ⟨s, slot, -⟩ := h.sound.owned t mem
      refine ⟨by rw [post_eq], by rw [post_eq], ?_, ?_⟩
      · let silenced : Phone := { p with timers := p.timers.cancel timer }
        have opened : silenced.closed = false := h.opened
        refine (failures_post opened t.value).trans ?_
        rw [failuresAmong_of_slot slot, List.append_nil]
        rfl
      · rw [post_eq]
        refine List.filter_congr fun u hu => decide_eq_decide.mpr (not_congr ?_)
        exact (and_iff_left_of_imp fun same => only hu same ▸ due).symm
    · rename_i early
      refine ⟨rfl, rfl, rfl, (List.filter_eq_self.mpr fun u hu => decide_eq_true ?_).symm⟩
      rintro ⟨same, due⟩
      exact early (only hu same ▸ due)

theorem Steady.config_outsides (h : p.Steady) (os : List Outside) : (p.outsides os).config = p.config := by
  induction os generalizing p with
  | nil => rfl
  | cons o rest ih =>
    have first : (p.outside o).config = p.config := by
      by_cases fires : ∃ timer, o = .fire timer
      · obtain ⟨timer, rfl⟩ := fires
        exact (fireTimer_cases h timer).1
      · exact (outside_around h.opened fun timer he => fires ⟨timer, he⟩).config
    exact (ih (h.outside o)).trans first

/-- For whatever goes on outside the phones look alike: they are at the same time, with the same timer of the
connection and the same failures queued. -/
structure Beside (p q : Phone) : Prop where
  steady : p.Steady
  steady' : q.Steady
  config : q.config = p.config
  now : q.now = p.now
  connectionTimers : q.connectionTimers = p.connectionTimers
  failures : q.failures = p.failures

namespace Beside

theorem refl (h : p.Steady) : p.Beside p := ⟨h, h, rfl, rfl, rfl, rfl⟩

theorem trans (h : p.Beside q) (h' : q.Beside r) : p.Beside r where
  steady := h.steady
  steady' := h'.steady'
  config := h'.config.trans h.config
  now := h'.now.trans h.now
  connectionTimers := h'.connectionTimers.trans h.connectionTimers
  failures := h'.failures.trans h.failures

/-- The same things outside leave them alike. -/
theorem outside (h : p.Beside q) (o : Outside) : (p.outside o).Beside (q.outside o) := by
  by_cases fires : ∃ timer, o = .fire timer
  · obtain ⟨timer, rfl⟩ := fires
    obtain ⟨config, now, failures, armed⟩ := fireTimer_cases h.steady timer
    obtain ⟨config', now', failures', armed'⟩ := fireTimer_cases h.steady' timer
    refine ⟨h.steady.outside _, h.steady'.outside _, config'.trans (h.config.trans config.symm),
      now'.trans (h.now.trans now.symm), ?_, failures'.trans (h.failures.trans failures.symm)⟩
    -- What is left of the connection's timers follows from what they were, as the time is the same.
    have left (r : Phone) : List.filter (fun t => t.value.slot? = some .connection)
        (r.timers.armed.filter fun t => ¬(t.id = timer ∧ t.due ≤ p.now)) =
          r.connectionTimers.filter fun t => ¬(t.id = timer ∧ t.due ≤ p.now) := List.filter_comm _ _ _
    change List.filter _ (q.fireTimer timer).timers.armed = List.filter _ (p.fireTimer timer).timers.armed
    rw [armed, armed', h.now, left, left, h.connectionTimers]
  · have none (timer : Nat) : o ≠ .fire timer := fun he => fires ⟨timer, he⟩
    have around := outside_around h.steady.opened none
    have around' := outside_around h.steady'.opened none
    refine ⟨h.steady.outside o, h.steady'.outside o, around'.config.trans (h.config.trans around.config.symm),
      ?_, ?_, ?_⟩
    · rw [around'.now, around.now, h.now]
    · unfold Phone.connectionTimers
      rw [around'.timers, around.timers]
      exact h.connectionTimers
    · rw [around'.failures, around.failures, h.failures]

theorem outsides (h : p.Beside q) (os : List Outside) : (p.outsides os).Beside (q.outsides os) := by
  induction os generalizing p q with
  | nil => exact h
  | cons o rest ih => exact ih (h.outside o)

/-- Services, communication device and journal have no part in this. -/
theorem serviced (h : p.Steady) (platform : Platform) (registry : Registry) (journal : List JournalEntry) :
    p.Beside { p with platform, registry, journal } := ⟨h, ⟨h.sound, h.opened⟩, rfl, rfl, rfl, rfl⟩

theorem post (h : p.Steady) {message : Message} (silent : failuresAmong [message] = []) :
    p.Beside (p.post message) := by
  have opened : (p.post message).closed = false := (p.aside_post message).closed.trans h.opened
  refine ⟨h, ⟨?_, opened⟩, ?_, ?_, ?_, ?_⟩
  · rw [alarms_post]
    exact h.sound
  · rw [post_eq]
  · rw [post_eq]
  · rw [post_eq]
    rfl
  · rw [failures_post h.opened, silent, List.append_nil]

end Beside

end Phone

/-- Each stretch of the step leaves alone what things outside look at, wherever it goes on from after a
wait. -/
def Step.Discreet (p : Phone) : Step α → Prop
  | .done _ q => p.Beside q
  | .wait q resume => p.Beside q ∧ ∀ attached r, r.Steady → (resume attached r).Discreet r

namespace Step

variable {p q : Phone} {s : Step α}

theorem Discreet.after (h : p.Beside q) (hs : s.Discreet q) : s.Discreet p := by
  cases s with
  | done value r => exact h.trans hs
  | wait r resume => exact ⟨h.trans hs.1, hs.2⟩

theorem Discreet.bind {next : α → Job β} (h : s.Discreet p)
    (hn : ∀ value q, q.Steady → (next value q).Discreet q) : (s.bind next).Discreet p := by
  induction s generalizing p with
  | done value q => exact (hn value q h.steady').after h
  | wait q resume ih => exact ⟨h.1, fun attached r hr => ih _ _ (h.2 attached r hr)⟩

/-- The step ends beside the phone on which only things outside have gone on. -/
theorem Discreet.finish {around : Phone} (h : s.Discreet p) (ha : around.Beside p) (pauses : Pauses) :
    (around.outsides (s.meanwhile pauses)).Beside (s.finish pauses).phone := by
  induction s generalizing p around pauses with
  | done value q => exact ha.trans h
  | wait q resume ih =>
    let os := (pauses 0).meanwhile
    have waited : (around.outsides os).Beside (q.outsides os) := (ha.trans h.1).outsides os
    have rest := ih (pauses 0).attached (q.outsides os) (h.2 _ _ waited.steady') waited pauses.rest
    have split (more : List Outside) : around.outsides (os ++ more) = (around.outsides os).outsides more :=
      List.foldl_append
    rw [meanwhile, split]
    exact rest

end Step

def Job.Discreet (job : Job α) : Prop := ∀ p : Phone, p.Steady → (job p).Discreet p

namespace Job

theorem discreet_pure (value : α) : (pure value : Job α).Discreet := fun _ h => .refl h

theorem discreet_read : Job.read.Discreet := fun _ h => .refl h

theorem discreet_update {f : Phone → Phone} (hf : ∀ p : Phone, p.Steady → p.Beside (f p)) :
    (Job.update f).Discreet := hf

theorem discreet_change {f : Phone → α × Phone} (hf : ∀ p : Phone, p.Steady → p.Beside (f p).2) :
    (Job.change f).Discreet := hf

theorem Discreet.bind {job : Job α} {next : α → Job β} (h : job.Discreet)
    (hn : ∀ value, (next value).Discreet) : (job >>= next).Discreet :=
  fun p hp => (h p hp).bind hn

theorem discreet_awaitHeadset : Job.awaitHeadset.Discreet := by
  intro p h
  unfold Job.awaitHeadset
  split
  · exact .refl h
  · exact ⟨.refl h, fun _ _ hr => .refl hr⟩

end Job

namespace Phone
open Job

theorem connectAudio_discreet (address : Address) (switching : Bool) :
    (connectAudio address switching).Discreet := by
  have finished : (finishConnect address switching).Discreet := by
    refine Discreet.bind (discreet_update fun p h => ?_) fun _ => discreet_pure _
    cases switching
    · obtain ⟨platform, communication, made⟩ := p.makeCommunicationDevice_eq address
      rw [if_neg Bool.false_ne_true, made]
      exact .serviced h platform _ p.journal
    · exact .refl h
  have activated (use : ActiveUse) : (Job.change (activate address use)).Discreet :=
    discreet_change fun p h => .serviced h _ p.registry p.journal
  apply Discreet.bind (discreet_update fun p h => .serviced h p.platform p.registry _)
  intro _
  apply Discreet.bind discreet_read
  intro p
  split
  · exact discreet_pure _
  · apply Discreet.bind discreet_awaitHeadset
    intro attached
    split
    · apply Discreet.bind (activated _)
      intro accepted
      split
      · apply Discreet.bind (discreet_change fun p h => .serviced h _ p.registry p.journal)
        intro reply
        split
        · exact finished
        · exact discreet_pure _
      · exact discreet_pure _
    · exact discreet_pure _
  · apply Discreet.bind (activated _)
    intro accepted
    split
    · exact finished
    · exact discreet_pure _

theorem disconnectAudio_discreet : disconnectAudio.Discreet := by
  have released (p : Phone) (h : p.Steady) : p.Beside p.releaseCommunicationDevice := by
    obtain ⟨platform, form | ⟨address, form⟩⟩ := p.releaseCommunicationDevice_eq
    · rw [form]
      exact .serviced h platform _ p.journal
    · rw [form]
      have cleared := Beside.serviced h platform { p.registry with communication := none } p.journal
      exact cleared.trans (.post cleared.steady' rfl)
  apply Discreet.bind (discreet_update fun p h => .serviced h p.platform p.registry _)
  intro _
  apply Discreet.bind discreet_awaitHeadset
  intro attached
  apply discreet_update
  intro p h
  cases attached
  · exact released p h
  · have torn : p.Beside p.disconnectSco := .serviced h _ p.registry p.journal
    exact torn.trans (released _ torn.steady')

theorem requestAudio_discreet (target : Address) (switching : Bool) :
    (requestAudio target switching).Discreet := by
  refine Discreet.bind ?_ fun _ => connectAudio_discreet target switching
  cases switching
  · exact discreet_pure ()
  · exact disconnectAudio_discreet

/-- Dropping the retry of an earlier connect leaves all but that retry alone. -/
theorem beside_dropRetry {p : Phone} (h : p.Steady) : p.Beside p.dropRetry := by
  have sound : p.dropRetry.alarms.Sound := by
    rw [alarms_dropRetry]
    exact h.sound.drop .retry
  have connectionTimers : p.dropRetry.connectionTimers = p.connectionTimers := by
    change p.dropRetry.alarms.armedFor .connection = p.alarms.armedFor .connection
    rw [alarms_dropRetry]
    exact h.sound.armedFor_drop_of_ne nofun
  refine ⟨h, ⟨sound, ?_⟩, ?_, ?_, connectionTimers, ?_⟩ <;> rw [dropRetry_eq]
  · exact h.opened
  · rfl

theorem beside_requested {p : Phone} (h : p.Steady) (attempt : Nat) : p.Beside (p.requested attempt) := by
  unfold requested
  split
  · exact beside_dropRetry h
  · exact .refl h

end Phone
end CallAudio

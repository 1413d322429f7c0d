import CallAudio.Proofs.ReaffirmedConnect

/-! Connects that fail. The machine is left as it was, and exactly one thing follows: the retry is scheduled, or
the failure is posted. What goes on outside while a connect waits would have gone on without it too. -/
namespace CallAudio
namespace Phone

variable {p q around : Phone} {requested : Option Address} {target : Address} {attempt : Nat} {pauses : Pauses}

/-- The machine is left as it was before the connect, but for the retry and the history, and nobody is told.
The timer of the connection is as it would be had only things outside gone on. -/
structure LeavesMachine (p around q : Phone) : Prop where
  machine : q.machine = { p.machine with retry := q.machine.retry, history := q.machine.history }
  connectionTimers : q.connectionTimers = around.connectionTimers
  told : q.told = p.told
  announced : Bench.transitionEvents q.journal = Bench.transitionEvents p.journal

/-- What follows a rejected attempt, beside what goes on outside: the next attempt is scheduled instead of any
other retry, or no retry is left and the failure is posted. -/
def FollowedUp (target : Address) (attempt : Nat) (config : RouteConfig) (around q : Phone) : Prop :=
  (attempt < 2 ∧ q.failures = around.failures ∧ ∃ timer, q.machine.retry = some timer ∧
    q.armedRetries = [⟨timer, around.now + (config.backoff (attempt + 1)).toNanos,
      .retryConnect target (attempt + 1)⟩]) ∨
  (2 ≤ attempt ∧ q.failures = around.failures ++ [some target] ∧ q.machine.retry = none ∧
    q.armedRetries = [])

theorem scheduleRetry_follows (h : around.Beside q) (left : attempt < 2) :
    FollowedUp target attempt around.config around (q.scheduleRetry target (attempt + 1)) := by
  refine Or.inl ⟨left, ?_, q.timers.nextId, ?_, ?_⟩
  · rw [scheduleRetry_eq]
    exact h.failures
  · rw [scheduleRetry_eq]
  · change (q.scheduleRetry target (attempt + 1)).alarms.armedFor .retry = _
    rw [alarms_scheduleRetry, h.steady'.sound.armedFor_keep_self _ rfl, h.now, h.config]
    rfl

theorem dropRetry_follows (h : around.Beside q) (used : 2 ≤ attempt) :
    FollowedUp target attempt around.config around (q.dropRetry.post (.transitionFailed (some target))) := by
  have dropped := beside_dropRetry h.steady'
  refine Or.inr ⟨used, ?_, ?_, ?_⟩
  · rw [failures_post dropped.steady'.opened, dropped.failures, h.failures]
    rfl
  · rw [post_eq, dropRetry_eq]
  · change (q.dropRetry.post _).alarms.armedFor .retry = []
    rw [alarms_post, alarms_dropRetry]
    exact h.steady'.sound.armedFor_drop_self .retry

/-- A rejected attempt is followed up, which leaves the timer of the connection alone. -/
theorem onRejected_follows (h : around.Beside q) (target : Address) (attempt : Nat) (failure : ConnectFailure) :
    let rejected := q.onRejected target attempt failure
    FollowedUp target attempt around.config around rejected ∧
      rejected.connectionTimers = around.connectionTimers := by
  let noted := q.note (.connectFailed target attempt failure)
  have beside : around.Beside noted := ⟨h.steady, ⟨h.steady'.sound, h.steady'.opened⟩, h.config, h.now,
    h.connectionTimers, h.failures⟩
  unfold onRejected
  dsimp only
  split
  · rename_i left
    refine ⟨scheduleRetry_follows beside left, ?_⟩
    change (noted.scheduleRetry target (attempt + 1)).alarms.armedFor .connection = _
    rw [alarms_scheduleRetry]
    exact (beside.steady'.sound.armedFor_keep_of_ne _ rfl (by decide)).trans h.connectionTimers
  · rename_i used
    refine ⟨dropRetry_follows beside (Nat.not_lt.mp used), ?_⟩
    have dropped := (beside_dropRetry beside.steady').connectionTimers
    rw [post_eq]
    exact dropped.trans h.connectionTimers

/-- Nobody is told that audio is requested. -/
theorem told_requestAudio (p : Phone) (target : Address) (switching : Bool) (pauses : Pauses) :
    ((requestAudio target switching p).finish pauses).phone.told = p.told := by
  have told {q r : Phone} (h : Undisturbed q r) : r.told = q.told := congrArg Bench.routeEvents h.journal
  have requested (q : Phone) (pauses : Pauses) :
      ((connectAudio target switching q).finish pauses).phone.told = q.told :=
    (told ((connectAudio_undisturbed q target switching).finish pauses).1).trans (q.told_record nofun)
  unfold requestAudio
  rw [Job.finish_bind]
  cases switching
  · exact requested p pauses
  · have released : ((disconnectAudio p).finish pauses).phone.told = p.told :=
      (told (p.disconnectAudio_undisturbed.finish pauses).1).trans (p.told_record nofun)
    exact (requested _ _).trans released

theorem connect_announced (p : Phone) (requested : Option Address) (attempt : Nat) (pauses : Pauses) :
    Bench.transitionEvents ((connect requested attempt p).finish pauses).phone.journal =
      Bench.transitionEvents p.journal :=
  ((p.connect_along requested attempt).finish pauses).1.transitions.2

/-- What goes on outside during a connect goes on while it requests audio. -/
theorem startConnect_meanwhile (q : Phone) (target : Address) (attempt : Nat) (pauses : Pauses) :
    (startConnect target attempt q).meanwhile pauses =
      (requestAudio target (q.isSwitching target) q).meanwhile pauses := by
  rw [startConnect_eq]
  refine (Step.meanwhile_bind _ _ _).trans ?_
  generalize (requestAudio target (q.isSwitching target) q).finish pauses = answer
  obtain ⟨value, r, rest⟩ := answer
  cases value <;> exact List.append_nil _

/-- A connect that starts and is rejected. -/
theorem startConnect_rejected (h : around.Beside q)
    (value : ((startConnect target attempt q).finish pauses).value = .rejected target) :
    let ended := ((startConnect target attempt q).finish pauses).phone
    let after := around.outsides ((startConnect target attempt q).meanwhile pauses)
    FollowedUp target attempt after.config after ended ∧ ended.connectionTimers = after.connectionTimers ∧
      ended.told = q.told ∧
      ended.machine = { q.machine with retry := ended.machine.retry, history := ended.machine.history } := by
  let switching := q.isSwitching target
  have beside := (requestAudio_discreet target switching q h.steady').finish h pauses
  have machine := (q.requestAudio_finish target switching pauses).1
  have told := q.told_requestAudio target switching pauses
  rw [startConnect_meanwhile]
  rw [startConnect_eq, Job.finish_bind] at value ⊢
  dsimp only [switching] at beside machine told
  generalize (requestAudio target (q.isSwitching target) q).finish pauses = answer at beside machine told value ⊢
  obtain ⟨result, r, rest⟩ := answer
  cases result with
  | ok => cases value
  | error failure =>
    obtain ⟨follows, connectionTimers⟩ := onRejected_follows beside target attempt failure
    obtain ⟨same, journal⟩ := r.onRejected_same target attempt failure
    refine ⟨follows, connectionTimers, (congrArg Bench.routeEvents journal).trans told, same.trans ?_⟩
    let ended := r.onRejected target attempt failure
    exact congrArg (fun m : Machine =>
      { m with retry := ended.machine.retry, history := ended.machine.history }) machine

theorem startConnect_value (q : Phone) (target : Address) (attempt : Nat) (pauses : Pauses) :
    ((startConnect target attempt q).finish pauses).value = .started target ∨
      ((startConnect target attempt q).finish pauses).value = .rejected target := by
  rw [startConnect_eq, Job.finish_bind]
  generalize (requestAudio target (q.isSwitching target) q).finish pauses = answer
  obtain ⟨result, r, rest⟩ := answer
  cases result with
  | ok => exact Or.inl rfl
  | error failure => exact Or.inr rfl

/-- Only a connect that starts can be rejected. -/
theorem connectTo_rejected {resolved : Option Address}
    (value : ((q.connectTo requested attempt resolved).finish pauses).value = .rejected target) :
    q.connectTo requested attempt resolved = startConnect target attempt q := by
  cases resolved with
  | none => cases value
  | some other =>
    dsimp only [connectTo] at value ⊢
    split at value
    · cases value
    split at value
    · cases value
    rename_i notConnected notConnecting
    rw [if_neg notConnected, if_neg notConnecting]
    rcases q.startConnect_value other attempt pauses with started | rejected
    · rw [started] at value
      cases value
    · rw [rejected] at value
      cases value
      rfl

theorem connectTo_noDevice {resolved : Option Address}
    (value : ((q.connectTo requested attempt resolved).finish pauses).value = .noDevice) :
    q.connectTo requested attempt resolved =
      .done .noDevice ((q.note (.noDevices requested)).post (.transitionFailed requested)) := by
  cases resolved with
  | none => rfl
  | some other =>
    dsimp only [connectTo] at value
    split at value
    · cases value
    split at value
    · cases value
    rcases q.startConnect_value other attempt pauses with started | rejected
    · rw [started] at value
      cases value
    · rw [rejected] at value
      cases value

/-- Where there is no device a failure is posted for what was requested, and that is all. -/
theorem noDevices_leaves (h : p.Steady) (requested : Option Address) (attempt : Nat) :
    let ended := ((p.requested attempt).note (.noDevices requested)).post (.transitionFailed requested)
    LeavesMachine p p ended ∧ ended.registry = p.registry ∧ ended.platform = p.platform ∧
      ended.failures = p.failures ++ [requested] := by
  intro ended
  let noted := (p.requested attempt).note (.noDevices requested)
  have beside : p.Beside (p.requested attempt) := beside_requested h attempt
  have same : LeftAsItIs attempt p (p.requested attempt) := .of_requested h attempt
  have form : ended = { noted with inbox := _ } := noted.post_eq (.transitionFailed requested)
  have opened : noted.closed = false := beside.steady'.opened
  have failures : ended.failures = p.failures ++ [requested] :=
    (failures_post opened _).trans (congrArg (· ++ [requested]) beside.failures)
  rw [form] at failures ⊢
  have machine : noted.machine = { p.machine with
      retry := noted.machine.retry, history := noted.machine.history } :=
    congrArg (fun m : Machine => { m with history := noted.machine.history }) same.machine
  exact ⟨⟨machine, beside.connectionTimers, p.told_requested attempt, same.announced⟩, same.registry,
    same.platform, failures⟩

end Phone

/-- What comes of a connect that fails, in all the ways it can and wherever it waits for the headset service. -/
structure FailsSafely (p : Phone) (requested : Option Address) (attempt : Nat) (pauses : Pauses) : Prop where
  rejected : ∀ target,
    let connected := Phone.connect requested attempt p
    let ended := (connected.finish pauses).phone
    let around := p.outsides (connected.meanwhile pauses)
    (connected.finish pauses).value = .rejected target →
      Phone.LeavesMachine p around ended ∧ Phone.FollowedUp target attempt p.config around ended
  noDevice :
    let connected := Phone.connect requested attempt p
    let ended := (connected.finish pauses).phone
    (connected.finish pauses).value = .noDevice →
      connected.meanwhile pauses = [] ∧ Phone.LeavesMachine p p ended ∧
        ended.registry = p.registry ∧ ended.platform = p.platform ∧ ended.failures = p.failures ++ [requested]

theorem failed_connect_fails_safely {config : RouteConfig} {attached : List Profile} {p : Phone}
    (arises : p.Arises config attached) (requested : Option Address) (attempt : Nat) (pauses : Pauses) :
    FailsSafely p requested attempt pauses := by
  let q := p.requested attempt
  have beside : p.Beside q := Phone.beside_requested arises.steady attempt
  have dropped : Phone.LeftAsItIs attempt p q := .of_requested arises.steady attempt
  have told : q.told = p.told := p.told_requested attempt
  have announced := p.connect_announced requested attempt pauses
  have resolved := p.connect_eq requested attempt
  constructor
  · intro target connected ended around value
    dsimp only [connected, ended, around] at value ⊢
    rw [resolved] at value announced ⊢
    have starts := Phone.connectTo_rejected value
    rw [starts] at value announced ⊢
    obtain ⟨follows, connectionTimers, unheard, machine⟩ := Phone.startConnect_rejected beside value
    rw [arises.steady.config_outsides] at follows
    refine ⟨⟨machine.trans ?_, connectionTimers, unheard.trans told, announced⟩, follows⟩
    rw [dropped.machine]
  · intro connected ended value
    dsimp only [connected, ended] at value ⊢
    rw [resolved] at value ⊢
    have none := Phone.connectTo_noDevice value
    rw [none]
    exact ⟨rfl, Phone.noDevices_leaves arises.steady requested attempt⟩

/-- A headset that is rejected after audio was torn down on a hearing aid, with the headset service away at
first: the first attempt is made again, the last one is not. Where there is no device nothing is tried. -/
theorem failed_connect_fails_safely_of_switch :
    let headset : Address := ⟨10, 0, 0, 0, 0, 1⟩
    let aid : Address := ⟨10, 0, 0, 0, 0, 2⟩
    let p := ((Session.fresh {} []).run [
      .call (.deviceAdded ⟨headset, .audioSink⟩ .classicHeadset),
      .call (.deviceAdded ⟨aid, .audioSink⟩ .hearingAid), .call (.audioOn aid),
      .outside (.platform { adapter := { rejected := [headset] } })]).phone
    let pauses : Pauses := fun _ => ⟨true, [.pass 1000, .post (.transitionFailed none)]⟩
    let tried (attempt : Nat) := Phone.connect (some headset) attempt p
    let first := ((tried 0).finish pauses).phone
    let last := ((tried 2).finish pauses).phone
    let bare := (Session.fresh {} []).phone
    p.Arises {} [] ∧ p.machine.state = .connected aid ∧ bare.Arises {} [] ∧
      ((tried 0).finish pauses).value = .rejected headset ∧
      Phone.FollowedUp headset 0 p.config (p.outsides ((tried 0).meanwhile pauses)) first ∧
      p.failures = [some aid] ∧ first.failures = [some aid, none, none] ∧
      ((tried 2).finish pauses).value = .rejected headset ∧
      Phone.FollowedUp headset 2 p.config (p.outsides ((tried 2).meanwhile pauses)) last ∧
      last.failures = [some aid, none, none, some headset] ∧
      ((Phone.connect (some headset) 0 bare).finish pauses).value = .noDevice ∧
      ((Phone.connect (some headset) 0 bare).finish pauses).phone.failures = [some headset] := by
  intro headset aid p pauses tried first last bare
  have arises : p.Arises {} [] := .session _
  have fresh : bare.Arises {} [] := .session []
  have rejected : ((tried 0).finish pauses).value = .rejected headset := by decide
  have rejected' : ((tried 2).finish pauses).value = .rejected headset := by decide
  have none : ((Phone.connect (some headset) 0 bare).finish pauses).value = .noDevice := by decide
  have safe (attempt : Nat) := failed_connect_fails_safely arises (some headset) attempt pauses
  have untried := (failed_connect_fails_safely fresh (some headset) 0 pauses).noDevice none
  exact ⟨arises, by decide, fresh, rejected, ((safe 0).rejected headset rejected).2, by decide, by decide,
    rejected', ((safe 2).rejected headset rejected').2, by decide, none, untried.2.2.2.2⟩

end CallAudio

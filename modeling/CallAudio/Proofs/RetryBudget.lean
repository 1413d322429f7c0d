import CallAudio.Proofs.CancelledRetry
import CallAudio.Proofs.Spending
import CallAudio.Proofs.SwitchRetry

/-! The retries of connects. New connects pay for all requests for audio, a retry makes one of the attempts
that are left, and at most one is armed. -/
namespace CallAudio

namespace Phone

/-- The timers of retries. -/
def armedRetries (p : Phone) : List (Timer Message) :=
  p.timers.armed.filter fun t => t.value.slot? = some .retry

variable {p : Phone} {pauses : Pauses}

theorem armedRetries_eq_nil (h : p.alarms.Sound) (none : p.machine.retry = none) :
    p.armedRetries = [] := h.armedFor_eq_nil none

/-- No retry is held once the last attempt was rejected. -/
theorem connect_exhausted {requested : Option Address} {target : Address}
    (rejected : ((connect requested maxRetries p).finish pauses).value = .rejected target) :
    ((connect requested maxRetries p).finish pauses).phone.machine.retry = none := by
  let q := p.requested maxRetries
  rw [connect_finish] at rejected ⊢
  cases found : q.registry.connectTarget requested q.machine.recent with
  | none =>
    rw [found] at rejected
    cases rejected
  | some other =>
    rw [found] at rejected
    rcases q.machine.state.live_cases other with connected | connecting | elsewhere
    · rw [connectEnds_connected connected] at rejected
      cases rejected
    · rw [connectEnds_connecting connecting] at rejected
      cases rejected
    · rw [connectEnds_other elsewhere, startConnect_eq, Job.finish_bind] at rejected ⊢
      generalize (requestAudio other (q.isSwitching other) q).finish pauses = answer at rejected ⊢
      obtain ⟨value, r, rest⟩ := answer
      cases value with
      | ok => cases rejected
      | error failure =>
        change (r.onRejected other maxRetries failure).machine.retry = _
        unfold onRejected
        rw [if_neg (Nat.lt_irrefl _), post_eq, dropRetry_eq]

/-- No retry is armed once a retry as the last attempt was rejected. -/
theorem handled_exhausted {address target : Address} {rest : List Message} (h : p.Watched)
    (queued : p.inbox = .retryConnect address maxRetries :: rest)
    (rejected : ((retryConnect address maxRetries (({ p with inbox := rest } : Phone).record
      (.handled (.retryConnect address maxRetries)))).finish pauses).value = some (.rejected target)) :
    (({ p with inbox := rest } : Phone).handled (.retryConnect address maxRetries) pauses).armedRetries
      = [] := by
  let message : Message := .retryConnect address maxRetries
  let taken : Phone := { p with inbox := rest }
  let noted := taken.record (.handled message)
  have sound : (taken.handled message pauses).alarms.Sound := by
    have turned := h.turn (.handle pauses)
    rw [turn_handle queued] at turned
    exact turned.sound
  apply armedRetries_eq_nil sound
  have acted := act_retryConnect_finish noted pauses address maxRetries
  change ((retryConnect address maxRetries noted).finish pauses).value = _ at rejected
  rw [retryConnect_finish] at rejected
  split at rejected
  · rename_i due
    let connected := (connect (some address) maxRetries noted).finish pauses
    have outcome : connected.value = .rejected target := Option.some.inj rejected
    rw [if_pos due] at acted
    have dropped : ((act message noted).finish pauses).phone.machine.retry = none := by
      rw [acted]
      change (onConnectOutcome connected.value connected.phone).machine.retry = none
      rw [outcome]
      exact connect_exhausted outcome
    have accounted : Touches [] ((act message noted).finish pauses).phone (taken.handled message pauses) := by
      rw [handled_eq]
      exact accounted_touches _ _ _
    refine accounted.keeps (P := fun q => q.machine.retry = none) (fun p q touch hp => ?_) dropped
    exact (touch.spared_of_unmoved (by simp) (by simp)).retry.trans hp
  · cases rejected

end Phone

/-- What holds of requests for audio and of retries. The last attempt that may be made is the second
retry. -/
structure RetryBudget (t : Thread) : Prop where
  requests : tally Happening.audioRequests t.phone.journal ≤
    3 * tally Happening.newConnects t.phone.journal
  attempts : ∀ address attempt,
    .retryConnect address attempt ∈ t.phone.timers.armed.map Timer.value ++ t.inbox ++ t.handled →
      attempt = 1 ∨ attempt = 2
  single : t.phone.armedRetries.length ≤ 1
  exhausted : ∀ address target rest pauses,
    let taken : Phone := { t.phone with inbox := rest }
    let noted := taken.record (.handled (.retryConnect address 2))
    t.isIdle = true → t.inbox = .retryConnect address 2 :: rest →
    ((Phone.retryConnect address 2 noted).finish pauses).value = some (.rejected target) →
    (taken.handled (.retryConnect address 2) pauses).armedRetries = []

/-- At every moment of a run in which only timers post retries, also while a message waits, each new
connect has paid for all requests for audio, and the retries are as few and in such order as they should
be. -/
theorem retries_within_budget (config : RouteConfig) (attached : List Profile)
    (moves : List ThreadMove) (timed : ∀ m ∈ moves, m.Only Outside.SparesRetries) :
    RetryBudget ((Thread.fresh config attached).run moves) := by
  let t := (Thread.fresh config attached).run moves
  have solvent : t.phone.Solvent 0 :=
    ((Thread.solvent_fresh config attached).run moves timed).covered
  have sound : t.phone.alarms.Sound := (Thread.run_keeps_phone Phone.alarms_sound_kept
    (Thread.underway_fresh config attached) (Phone.watched_start config attached).sound moves).2
  refine ⟨?_, fun address attempt mem => ?_, sound.one_armed .retry, ?_⟩
  · have covered := solvent.covered
    change tally _ t.phone.journal ≤ (maxRetries + 1) * tally _ t.phone.journal
    omega
  · have proper : (Message.retryConnect address attempt).Proper := by
      have retry : (Message.retryConnect address attempt).isRetry = true := rfl
      rcases List.mem_append.mp mem with waiting | handled
      · refine solvent.due _ (Multiset.mem_add.mpr ?_)
        rcases List.mem_append.mp waiting with armed | queued
        · exact Or.inr (List.mem_filter.mpr ⟨armed, retry⟩)
        · exact Or.inl (List.mem_filter.mpr ⟨queued, retry⟩)
      · exact solvent.handled _ handled
    have bounds : 1 ≤ attempt ∧ attempt ≤ 2 := proper
    omega
  · intro address target rest pauses taken noted idle queued rejected
    have watched : t.phone.Watched := (Thread.reaches_fresh_run config attached moves idle).watched.1
    exact Phone.handled_exhausted watched queued rejected

/-- A headset that rejects a connect and both retries. -/
theorem retries_within_budget_of_rejected :
    let headset : Address := ⟨10, 0, 0, 0, 0, 1⟩
    let moves : List ThreadMove := [.start,
      .outside (.post (.deviceAdded ⟨headset, .audioSink⟩ .classicHeadset)), .handle,
      .outside (.platform { adapter := { rejected := [headset] } }),
      .outside (.post (.connect (some headset))), .handle,
      .outside (.pass 1000000000), .outside (.fire 0), .handle,
      .outside (.pass 1000000000), .outside (.fire 1)]
    let pauses : Pauses := fun _ => ⟨true, []⟩
    let t := (Thread.fresh {} [.classicHeadset]).run moves
    let taken : Phone := { t.phone with inbox := [] }
    let noted := taken.record (.handled (.retryConnect headset 2))
    RetryBudget t ∧ t.isIdle = true ∧ t.inbox = [.retryConnect headset 2] ∧
      ((Phone.retryConnect headset 2 noted).finish pauses).value = some (.rejected headset) ∧
      (taken.handled (.retryConnect headset 2) pauses).armedRetries = [] ∧
      tally Happening.audioRequests (t.move .handle).phone.journal = 3 ∧
      tally Happening.newConnects (t.move .handle).phone.journal = 1 := by
  intro headset moves pauses t taken noted
  have timed : ∀ m ∈ moves, m.Only Outside.SparesRetries := by
    simp [moves, ThreadMove.Only, Outside.SparesRetries, Message.isRetry, Message.slot?]
  have idle : t.isIdle = true := by decide
  have queued : t.inbox = [.retryConnect headset 2] := by decide
  have rejected : ((Phone.retryConnect headset 2 noted).finish pauses).value = some (.rejected headset) := by
    decide
  have spent : tally Happening.audioRequests (t.move .handle).phone.journal = 3 ∧
      tally Happening.newConnects (t.move .handle).phone.journal = 1 := by decide
  have budget : RetryBudget t := retries_within_budget {} [.classicHeadset] moves timed
  exact ⟨budget, idle, queued, rejected,
    budget.exhausted headset headset [] pauses idle queued rejected, spent⟩

end CallAudio

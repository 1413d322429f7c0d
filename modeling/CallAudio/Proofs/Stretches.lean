import CallAudio.Proofs.Devices

/-! What a single move does to the phone. Between two moves the thread has stopped, at the end of a message
or while it waits, so a move handles one stretch of a message. -/
namespace CallAudio

namespace Thread

/-- A message in progress goes on by touches from wherever it is resumed. Devices have no part in what is
left of it. -/
def Doing (t : Thread) : Prop :=
  match t.loop with
  | .running (.waiting _ resume) => ∃ (message : Message) (cs : List Concern),
      (∀ c ∈ cs, c.SparesDevices) ∧
        ∀ attached r, (resume attached r).Does message.concerns r ∧ (resume attached r).Does cs r
  | _ => True

/-- The message that a move takes off the queue. -/
def taken (t : Thread) : ThreadMove → Option Message
  | .handle => if t.isIdle then t.inbox.head? else none
  | _ => none

/-- What a move can lead to: nothing is done, something goes on outside, the thread ends, or a message is
handled up to its next wait or its end. -/
inductive Stretch (t : Thread) : ThreadMove → Phone → Prop
  | still (m : ThreadMove) (none : t.taken m = none) : Stretch t m t.phone
  | outside (o : Outside) : Stretch t (.outside o) (t.phone.outside o)
  | stopped : Stretch t .stop t.stop.phone
  | taken {message : Message} {rest : List Message} {q : Phone} (idle : t.isIdle = true)
      (queued : t.phone.inbox = message :: rest)
      (touches : Touches message.concerns
        (({ t.phone with inbox := rest } : Phone).record (.handled message)) q)
      (devices : q.registry.devices =
        (({ t.phone with inbox := rest } : Phone).placed message).registry.devices) :
      Stretch t .handle q
  | resumed {message : Message} {q : Phone} (touches : Touches message.concerns t.phone q)
      (devices : q.registry.devices = t.phone.registry.devices) : Stretch t .resume q

variable {t u : Thread}

theorem taken_handle {message : Message} {rest : List Message} (idle : t.isIdle = true)
    (queued : t.phone.inbox = message :: rest) : t.taken .handle = some message := by
  change (if t.isIdle then t.phone.inbox.head? else none) = _
  rw [if_pos idle, queued]
  rfl

theorem mem_inbox_of_taken {m : ThreadMove} {message : Message} (h : t.taken m = some message) :
    message ∈ t.inbox := by
  cases m with
  | handle =>
    change (if t.isIdle then t.inbox.head? else none) = some message at h
    split at h
    · exact List.mem_of_head? h
    · cases h
  | _ => cases h

theorem taken_of_handleNext?_eq_none (h : t.handleNext? = none) : t.taken .handle = none := by
  obtain ⟨phone, loop⟩ := t
  cases loop with
  | unstarted | gone => rfl
  | running work =>
    cases work with
    | waiting => rfl
    | finished value =>
      change phone.inbox.head? = none
      cases queued : phone.inbox with
      | nil => rfl
      | cons message rest =>
        unfold handleNext? at h
        simp only [queued] at h
        cases h

theorem doing_fresh (config : RouteConfig) (attached : List Profile) :
    (fresh config attached).Doing := trivial

theorem doing_ofStep {message : Message} {cs : List Concern} {p p' : Phone} {s : Step Unit}
    (h : s.Does message.concerns p) (h' : s.Does cs p') (spares : ∀ c ∈ cs, c.SparesDevices) :
    let w := Work.ofStep s
    Doing ⟨w.2, .running w.1⟩ ∧ Touches message.concerns p w.2 ∧
      w.2.registry.devices = p'.registry.devices := by
  cases s with
  | done value q => exact ⟨trivial, h, Touches.devices h' spares⟩
  | wait q resume =>
    exact ⟨⟨message, cs, spares, fun attached r => ⟨h.2 attached r, h'.2 attached r⟩⟩, h.1,
      h'.1.devices spares⟩

theorem Doing.stretch (h : t.Doing) (m : ThreadMove) :
    (t.move m).Doing ∧ t.Stretch m (t.move m).phone := by
  cases m with
  | start =>
    obtain ⟨phone, loop⟩ := t
    cases loop with
    | unstarted => exact ⟨trivial, .still _ rfl⟩
    | running | gone => exact ⟨h, .still _ rfl⟩
  | stop => exact ⟨trivial, .stopped⟩
  | handle =>
    change (t.handleNext?.getD t).Doing ∧ t.Stretch .handle (t.handleNext?.getD t).phone
    cases hn : t.handleNext? with
    | none => exact ⟨h, .still _ (taken_of_handleNext?_eq_none hn)⟩
    | some u =>
      obtain ⟨idle, message, rest, queued, rfl⟩ := handleNext?_cases hn
      obtain ⟨cs, spares, placed⟩ := Phone.handle_placed_does { t.phone with inbox := rest } message
      obtain ⟨doing, touches, devices⟩ := doing_ofStep (Phone.handle_does _ message) placed spares
      exact ⟨doing, .taken idle queued touches devices⟩
  | resume =>
    change (t.resume?.getD t).Doing ∧ t.Stretch .resume (t.resume?.getD t).phone
    cases hn : t.resume? with
    | none => exact ⟨h, .still _ rfl⟩
    | some u =>
      obtain ⟨deadline, resume, attached, hl, rfl⟩ := resume?_cases hn
      unfold Doing at h
      rw [hl] at h
      obtain ⟨message, cs, spares, does⟩ := h
      obtain ⟨goes, goes'⟩ := does attached t.phone
      obtain ⟨doing, touches, devices⟩ := doing_ofStep goes goes' spares
      exact ⟨doing, .resumed touches devices⟩
  | outside o => exact ⟨h, .outside o⟩

theorem Doing.run (h : t.Doing) (moves : List ThreadMove) : (t.run moves).Doing :=
  run_keeps (fun _ m doing => (doing.stretch m).1) h moves

/-- A thread that has ended does not run again. -/
theorem gone_run (h : t.loop = .gone) (moves : List ThreadMove) : (t.run moves).loop = .gone := by
  refine run_keeps (P := fun t => t.loop = .gone) (fun t m gone => ?_) h moves
  obtain ⟨phone, loop⟩ := t
  subst gone
  cases m <;> rfl

theorem run_append (t : Thread) (moves moves' : List ThreadMove) :
    t.run (moves ++ moves') = (t.run moves).run moves' := List.foldl_append

/-- A thread that still runs was not stopped. -/
theorem not_stopped_of_idle {moves : List ThreadMove} (h : (t.run moves).isIdle = true) :
    .stop ∉ moves := by
  intro stopped
  obtain ⟨before, after, rfl⟩ := List.append_of_mem stopped
  have gone : (t.run (before ++ .stop :: after)).loop = .gone := by
    rw [run_append]
    exact gone_run rfl after
  simp [isIdle, gone] at h

end Thread

end CallAudio

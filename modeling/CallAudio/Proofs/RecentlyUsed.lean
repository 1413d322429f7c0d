import CallAudio.Proofs.StretchUses

/-! The devices that were used, as the machine ranks them. The ranking follows from what each move of a run
takes from the devices and moves audio to. -/
namespace CallAudio

variable {p q : Phone}

/-- The ranking follows the losses and then the change of the state. -/
def RanksAfter (losses : List Usage) (p q : Phone) : Prop :=
  q.machine.recent = (losses ++ p.machine.state.usage q.machine.state).foldl Usage.apply p.machine.recent

theorem SameUse.ranksAfter (h : SameUse p q) : RanksAfter [] p q := h.quits.uses

theorem Uses.ranksAfter {message : Message} (h : Uses (p.bereft message) q) :
    RanksAfter (p.losses message) p q := by
  unfold RanksAfter
  rw [List.foldl_append]
  exact h

namespace Work

/-- Whatever is left of the work ranks the devices by their use. -/
def Ranks : Work Unit → Prop
  | .finished _ => True
  | .waiting _ resume => ∀ attached r, (resume attached r).EachStretch Uses r

variable {w w' : Work Unit}

theorem ranks_ofStep {s : Step Unit} (h : s.EachStretch Uses p) :
    (ofStep s).1.Ranks ∧ Uses p (ofStep s).2 := by
  cases s with
  | done value q => exact ⟨trivial, h⟩
  | wait q resume => exact ⟨h.2, h.1⟩

theorem Ranks.resume (h : w.Ranks) (hr : w.resume? p = some (w', q)) : w'.Ranks ∧ Uses p q := by
  obtain ⟨deadline, resume, attached, rfl, hw⟩ := resume?_cases hr
  obtain ⟨rfl, rfl⟩ := Prod.mk.inj hw
  exact ranks_ofStep (h attached p)

end Work

namespace Thread

/-- The use of devices in a single move: the message that it takes may lose one, and audio may move to
another. -/
def usage (t : Thread) (m : ThreadMove) : List Usage :=
  (t.taken m).elim [] t.phone.losses ++ t.phone.machine.state.usage (t.move m).phone.machine.state

/-- The use of devices in a run. -/
def usages (t : Thread) : List ThreadMove → List Usage
  | [] => []
  | m :: rest => t.usage m ++ (t.move m).usages rest

def Ranks (t : Thread) : Prop :=
  match t.loop with
  | .running work => work.Ranks
  | _ => True

variable {t : Thread}

theorem Ranks.move (h : t.Ranks) (m : ThreadMove) :
    (t.move m).Ranks ∧ RanksAfter ((t.taken m).elim [] t.phone.losses) t.phone (t.move m).phone := by
  have still : RanksAfter [] t.phone t.phone := (SameUse.refl t.phone).ranksAfter
  cases m with
  | start =>
    obtain ⟨phone, loop⟩ := t
    cases loop with
    | unstarted => exact ⟨trivial, still⟩
    | running | gone => exact ⟨h, still⟩
  | stop =>
    have stopped : SameUse t.phone t.stop.phone := ⟨rfl, rfl⟩
    exact ⟨trivial, stopped.ranksAfter⟩
  | handle =>
    show (t.handleNext?.getD t).Ranks ∧ RanksAfter _ t.phone (t.handleNext?.getD t).phone
    cases hn : t.handleNext? with
    | none =>
      rw [taken_of_handleNext?_eq_none hn]
      exact ⟨h, still⟩
    | some u =>
      obtain ⟨idle, message, rest, queued, rfl⟩ := handleNext?_cases hn
      rw [taken_handle idle queued]
      obtain ⟨ranks, uses⟩ := Work.ranks_ofStep (Phone.handle_uses { t.phone with inbox := rest } message)
      exact ⟨ranks, uses.ranksAfter⟩
  | resume =>
    show (t.resume?.getD t).Ranks ∧ RanksAfter [] t.phone (t.resume?.getD t).phone
    cases hn : t.resume? with
    | none => exact ⟨h, still⟩
    | some u =>
      obtain ⟨deadline, resume, attached, hl, rfl⟩ := resume?_cases hn
      unfold Ranks at h
      rw [hl] at h
      exact Work.ranks_ofStep (h attached t.phone)
  | outside o => exact ⟨h, (SameUse.of_machine (t.phone.outside_undisturbed o).machine).ranksAfter⟩

theorem Ranks.run (h : t.Ranks) (moves : List ThreadMove) : (t.run moves).Ranks ∧
    (t.run moves).phone.machine.recent = (t.usages moves).foldl Usage.apply t.phone.machine.recent := by
  induction moves generalizing t with
  | nil => exact ⟨h, rfl⟩
  | cons m rest ih =>
    obtain ⟨ranks, follows⟩ := h.move m
    obtain ⟨ranks', recent⟩ := ih ranks
    -- The losses of the move come before its change of state, as in its usage.
    have first : (t.move m).phone.machine.recent =
        (t.usage m).foldl Usage.apply t.phone.machine.recent := follows
    refine ⟨ranks', recent.trans ?_⟩
    rw [first, ← List.foldl_append]
    rfl

end Thread

namespace Session

/-- The use of devices in a single move; a call that cannot begin does not count. -/
def usage (s : Session) (m : SessionMove) : List Usage :=
  let losses := match m, s.work with
    | .call c, .finished _ => s.phone.losses c.message
    | _, _ => []
  losses ++ s.phone.machine.state.usage (s.move m).phone.machine.state

def usages (s : Session) : List SessionMove → List Usage
  | [] => []
  | m :: rest => s.usage m ++ (s.move m).usages rest

variable {s : Session}

theorem ranks_move (h : s.work.Ranks) (m : SessionMove) : (s.move m).work.Ranks ∧
    (s.move m).phone.machine.recent = (s.usage m).foldl Usage.apply s.phone.machine.recent := by
  obtain ⟨phone, work⟩ := s
  have still : RanksAfter [] phone phone := (SameUse.refl phone).ranksAfter
  cases m with
  | call c =>
    cases work with
    | finished value =>
      obtain ⟨ranks, uses⟩ := Work.ranks_ofStep (c.job_uses phone)
      exact ⟨ranks, uses.ranksAfter⟩
    | waiting => exact ⟨h, still⟩
  | resume =>
    cases hr : work.resume? phone with
    | none =>
      have stays : (Session.mk phone work).move .resume = ⟨phone, work⟩ := by
        show ((work.resume? phone).map ofWork).getD _ = _
        rw [hr]
        rfl
      unfold usage
      rw [stays]
      exact ⟨h, still⟩
    | some w =>
      have goes : (Session.mk phone work).move .resume = ofWork w := by
        show ((work.resume? phone).map ofWork).getD _ = _
        rw [hr]
        rfl
      unfold usage
      rw [goes]
      exact Work.Ranks.resume h hr
  | outside o => exact ⟨h, (SameUse.of_machine (phone.outside_undisturbed o).machine).ranksAfter⟩

theorem ranks_run (h : s.work.Ranks) (moves : List SessionMove) : (s.run moves).work.Ranks ∧
    (s.run moves).phone.machine.recent = (s.usages moves).foldl Usage.apply s.phone.machine.recent := by
  induction moves generalizing s with
  | nil => exact ⟨h, rfl⟩
  | cons m rest ih =>
    obtain ⟨ranks, first⟩ := ranks_move h m
    obtain ⟨ranks', recent⟩ := ih ranks
    refine ⟨ranks', recent.trans ?_⟩
    rw [first, ← List.foldl_append]
    rfl

end Session

/-- In every run the machine ranks the devices by their use: those that a connected state was entered for and
that were not lost with their last profile since, each once, in the order in which that last happened. A move
without such a use leaves the ranking as it is. This holds of the route thread between any two moves, also while
a message waits, and of a machine whose messages are handled in any order. -/
theorem recent_ranks_by_use (config : RouteConfig) (attached : List Profile) :
    (∀ moves : List ThreadMove,
      let t := (Thread.fresh config attached).run moves
      RanksByUse ((Thread.fresh config attached).usages moves) t.phone.machine.recent ∧
        ∀ m, t.usage m = [] → (t.move m).phone.machine.recent = t.phone.machine.recent) ∧
    ∀ moves : List SessionMove,
      let s := (Session.fresh config attached).run moves
      RanksByUse ((Session.fresh config attached).usages moves) s.phone.machine.recent ∧
        ∀ m, s.usage m = [] → (s.move m).phone.machine.recent = s.phone.machine.recent := by
  constructor
  · intro moves t
    have fresh : (Thread.fresh config attached).Ranks := trivial
    obtain ⟨ranks, recent⟩ := fresh.run moves
    refine ⟨?_, fun m unused => ?_⟩
    · rw [recent]
      exact .foldl _
    · have follows : (t.move m).phone.machine.recent =
          (t.usage m).foldl Usage.apply t.phone.machine.recent := (ranks.move m).2
      rw [follows, unused]
      rfl
  · intro moves s
    have fresh : (Session.fresh config attached).work.Ranks := trivial
    obtain ⟨ranks, recent⟩ := Session.ranks_run fresh moves
    refine ⟨?_, fun m unused => ?_⟩
    · rw [recent]
      exact .foldl _
    · rw [(Session.ranks_move ranks m).2, unused]
      rfl

/-- A headset is used again after another one, which is lost later; a teardown after that uses none. -/
theorem recent_ranks_by_use_of_headsets :
    let first : Address := ⟨10, 0, 0, 0, 0, 1⟩
    let second : Address := ⟨10, 0, 0, 0, 0, 2⟩
    let moves : List SessionMove := [.call (.deviceAdded ⟨first, .audioSink⟩ .classicHeadset),
      .call (.deviceAdded ⟨second, .audioSink⟩ .classicHeadset), .call (.audioOn first),
      .call (.audioOn second), .call (.audioOn first), .call (.audioOn first),
      .call (.deviceLost second .classicHeadset)]
    (Session.fresh {} [.classicHeadset]).usages moves =
        [.entered first, .entered second, .entered first, .lost second] ∧
      RanksByUse [.entered first, .entered second, .entered first, .lost second] [first] ∧
      ((Session.fresh {} [.classicHeadset]).run moves).usage (.call .disconnect) = [] ∧
      (((Session.fresh {} [.classicHeadset]).run moves).move (.call .disconnect)).phone.machine.recent =
        [first] := by
  intro first second moves
  have usages : (Session.fresh {} [.classicHeadset]).usages moves =
      [.entered first, .entered second, .entered first, .lost second] := by decide
  have recent : ((Session.fresh {} [.classicHeadset]).run moves).phone.machine.recent = [first] := by decide
  have unused : ((Session.fresh {} [.classicHeadset]).run moves).usage (.call .disconnect) = [] := by decide
  have general := (recent_ranks_by_use {} [.classicHeadset]).2 moves
  dsimp only at general
  rw [usages, recent] at general
  exact ⟨usages, general.1, unused, general.2 _ unused⟩

end CallAudio

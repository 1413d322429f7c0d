import CallAudio.Proofs.Pauses
import CallAudio.Proofs.Touches
import Mathlib.Data.List.Induction

/-! What holds of the phone whenever the route thread stops: when a message is finished, and also while
one waits for the headset service. -/
namespace CallAudio

variable {α β : Type} {P : Phone → Prop} {post : α → Phone → Prop}

/-- Wherever the step waits `P` holds, as long as what goes on meanwhile keeps it, and at its end `post`
holds. -/
def Step.Upholds (P : Phone → Prop) (post : α → Phone → Prop) : Step α → Prop
  | .done value q => post value q
  | .wait q resume => P q ∧ ∀ attached r, P r → (resume attached r).Upholds P post

namespace Step

variable {s : Step α}

theorem Upholds.bind {next : α → Job β} {post' : β → Phone → Prop} (h : s.Upholds P post)
    (hn : ∀ value q, post value q → (next value q).Upholds P post') :
    (s.bind next).Upholds P post' := by
  induction s with
  | done value q => exact hn value q h
  | wait q resume ih =>
    refine ⟨h.1, ?_⟩
    intro attached r hr
    exact ih attached r (h.2 attached r hr)

theorem Upholds.mono {post' : α → Phone → Prop} (h : s.Upholds P post)
    (hp : ∀ value q, post value q → post' value q) : s.Upholds P post' := by
  induction s with
  | done value q => exact hp value q h
  | wait q resume ih =>
    refine ⟨h.1, ?_⟩
    intro attached r hr
    exact ih attached r (h.2 attached r hr)

/-- What no touch of a step destroys holds throughout. -/
theorem Does.upholds {cs : List Concern} {p : Phone} (h : s.Does cs p)
    (hP : ∀ p q, Touch cs p q → P p → P q) (hp : P p) : s.Upholds P fun _ q => P q := by
  induction s generalizing p with
  | done value q => exact h.keeps hP hp
  | wait q resume ih =>
    refine ⟨h.1.keeps hP hp, ?_⟩
    intro attached r hr
    exact ih attached r (h.2 attached r) hr

theorem Upholds.finish (h : s.Upholds P post) (outside : ∀ p o, P p → P (p.outside o))
    (pauses : Pauses) : post (s.finish pauses).value (s.finish pauses).phone := by
  have outsides (os : List Outside) (p : Phone) (hp : P p) : P (p.outsides os) := by
    induction os generalizing p with
    | nil => exact hp
    | cons o rest ih => exact ih (p.outside o) (outside p o hp)
  induction s generalizing pauses with
  | done value q => exact h
  | wait q resume ih =>
    -- What goes on during the wait comes first, and the rest is upheld from there.
    apply ih
    exact h.2 _ _ (outsides _ q h.1)

end Step

namespace Thread

variable {t : Thread}

/-- `P` holds, and a message in progress upholds it from wherever things outside lead. -/
def Upholds (P : Phone → Prop) (t : Thread) : Prop :=
  P t.phone ∧ match t.loop with
    | .running (.waiting _ resume) =>
      ∀ attached r, P r → (resume attached r).Upholds P fun _ q => P q
    | _ => True

theorem upholds_fresh {config : RouteConfig} {attached : List Profile} (h : P (.start config attached)) :
    (fresh config attached).Upholds P := ⟨h, trivial⟩

theorem upholds_ofStep {s : Step Unit} (h : s.Upholds P fun _ q => P q) :
    Upholds P ⟨(Work.ofStep s).2, .running (Work.ofStep s).1⟩ := by
  cases s with
  | done value q => exact ⟨h, trivial⟩
  | wait q resume => exact h

theorem Upholds.resume {u : Thread} (h : t.Upholds P) (hu : t.resume? = some u) : u.Upholds P := by
  obtain ⟨deadline, resume, attached, hl, rfl⟩ := resume?_cases hu
  obtain ⟨hp, hr⟩ := h
  rw [hl] at hr
  exact upholds_ofStep (hr attached t.phone hp)

theorem Upholds.outside (h : t.Upholds P) {o : Outside} (ho : P (t.phone.outside o)) :
    Upholds P { t with phone := t.phone.outside o } := ⟨ho, h.2⟩

/-- A move upholds what the message that is taken upholds, and what lasts through anything outside and
through the end of the thread. -/
theorem Upholds.move (h : t.Upholds P) {m : ThreadMove} (stops : P t.stop.phone)
    (handles : m = .handle → t.isIdle = true → ∀ message rest, t.phone.inbox = message :: rest →
      (Phone.handle message { t.phone with inbox := rest }).Upholds P fun _ q => P q)
    (outside : ∀ o, m = .outside o → P (t.phone.outside o)) : (t.move m).Upholds P := by
  cases m with
  | start =>
    obtain ⟨phone, loop⟩ := t
    cases loop with
    | unstarted => exact ⟨h.1, trivial⟩
    | running | gone => exact h
  | stop => exact ⟨stops, trivial⟩
  | handle =>
    change (t.handleNext?.getD t).Upholds P
    cases hn : t.handleNext? with
    | none => exact h
    | some u =>
      obtain ⟨idle, message, rest, hi, rfl⟩ := handleNext?_cases hn
      exact upholds_ofStep (handles rfl idle message rest hi)
  | resume =>
    change (t.resume?.getD t).Upholds P
    cases hn : t.resume? with
    | none => exact h
    | some u => exact h.resume hn
  | outside o => exact h.outside (outside o rfl)

theorem run_concat (t : Thread) (past : List ThreadMove) (m : ThreadMove) :
    t.run (past ++ [m]) = (t.run past).move m := by
  rw [run, List.foldl_append]
  rfl

/-- If the moves that fail `P` are exactly those that do not uphold it, then `P` holds all along a run
exactly if none of its moves fails it. -/
theorem run_upholds_iff {moves : List ThreadMove} {fails : Thread → ThreadMove → Prop}
    (h : t.Upholds P)
    (kept : ∀ past m, past ++ [m] <+: moves → (t.run past).Upholds P → ¬fails (t.run past) m →
      ((t.run past).move m).Upholds P)
    (failed : ∀ past m, past ++ [m] <+: moves → P (t.run past).phone → fails (t.run past) m →
      ¬P ((t.run past).move m).phone) :
    (∀ past, past <+: moves → P (t.run past).phone) ↔
      ∀ past m, past ++ [m] <+: moves → ¬fails (t.run past) m := by
  have before {past : List ThreadMove} {m : ThreadMove} (way : past ++ [m] <+: moves) :
      past <+: moves := (List.prefix_append past [m]).trans way
  constructor
  · intro holds past m way hm
    apply failed past m way (holds past (before way)) hm
    rw [← run_concat]
    exact holds _ way
  · intro none past way
    -- By induction from the last move: the message in progress has to uphold `P` too, or nothing would be
    -- known of the phone once it is resumed.
    have upheld : (t.run past).Upholds P := by
      induction past using List.reverseRecOn with
      | nil => exact h
      | append_singleton past m ih =>
        rw [run_concat]
        exact kept past m way (ih (before way)) (none past m way)
    exact upheld.1

end Thread
end CallAudio

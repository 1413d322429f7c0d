import CallAudio.Proofs.Deeds

/-! What holds at every moment of a run of the route thread, also while one of its messages waits. -/
namespace CallAudio

/-- What is always kept of the phone: by the deeds of the thread and by anything outside, when a message
is taken, and when the thread ends. -/
structure Kept (P : Phone → Prop) : Prop where
  deed : ∀ {m p q}, Deed m p q → P p → P q
  outside : ∀ {p} o, P p → P (p.outside o)
  taken : ∀ {p message rest}, p.inbox = message :: rest → P p →
    P (({ p with inbox := rest } : Phone).record (.handled message))
  stopped : ∀ {t : Thread}, P t.phone → P t.stop.phone

variable {P : Phone → Prop}

theorem Kept.course (hP : Kept P) {m : Message} {p q : Phone} (h : Course (fun _ => True) m p q)
    (hp : P p) : P q :=
  h.keeps (fun _ _ deed => hP.deed deed) (fun _ o _ => hP.outside o) hp

namespace Thread

/-- A message in progress goes on with its course, from wherever things outside lead. -/
def Underway (t : Thread) : Prop :=
  match t.loop with
  | .running (.waiting _ resume) => ∃ m, ∀ attached os,
      (resume attached (t.phone.outsides os)).Takes (fun _ => True) m (t.phone.outsides os)
  | _ => True

variable {t : Thread}

theorem underway_fresh (config : RouteConfig) (attached : List Profile) :
    (fresh config attached).Underway := trivial

theorem ofStep_keeps (hP : Kept P) {m : Message} {p : Phone} {s : Step Unit}
    (h : s.Takes (fun _ => True) m p) (hp : P p) :
    let t : Thread := ⟨(Work.ofStep s).2, .running (Work.ofStep s).1⟩
    t.Underway ∧ P t.phone := by
  cases s with
  | done value q => exact ⟨trivial, hP.course h hp⟩
  | wait q resume => exact ⟨⟨m, fun attached os => h.2 attached os fun _ _ => trivial⟩, hP.course h.1 hp⟩

theorem handleNext_keeps (hP : Kept P) {u : Thread} (ht : P t.phone)
    (hu : t.handleNext? = some u) : u.Underway ∧ P u.phone := by
  obtain ⟨-, message, rest, hi, rfl⟩ := handleNext?_cases hu
  exact ofStep_keeps hP (Phone.handle_takes _ message) (hP.taken hi ht)

theorem resume_keeps (hP : Kept P) {u : Thread} (h : t.Underway) (ht : P t.phone)
    (hu : t.resume? = some u) : u.Underway ∧ P u.phone := by
  obtain ⟨deadline, resume, attached, hl, rfl⟩ := resume?_cases hu
  unfold Underway at h
  rw [hl] at h
  obtain ⟨m, h⟩ := h
  exact ofStep_keeps hP (h attached []) ht

theorem underway_outside (h : t.Underway) (o : Outside) :
    Underway { t with phone := t.phone.outside o } := by
  obtain ⟨phone, loop⟩ := t
  cases loop with
  | unstarted | gone => trivial
  | running work =>
    cases work with
    | finished => trivial
    | waiting deadline resume =>
      obtain ⟨m, h⟩ := h
      exact ⟨m, fun attached os => h attached (o :: os)⟩

theorem move_keeps (hP : Kept P) (h : t.Underway) (ht : P t.phone) (m : ThreadMove) :
    (t.move m).Underway ∧ P (t.move m).phone := by
  cases m with
  | start =>
    obtain ⟨phone, loop⟩ := t
    cases loop with
    | unstarted => exact ⟨trivial, ht⟩
    | running | gone => exact ⟨h, ht⟩
  | stop => exact ⟨trivial, hP.stopped ht⟩
  | handle =>
    change (t.handleNext?.getD t).Underway ∧ P (t.handleNext?.getD t).phone
    cases hn : t.handleNext? with
    | none => exact ⟨h, ht⟩
    | some u => exact handleNext_keeps hP ht hn
  | resume =>
    change (t.resume?.getD t).Underway ∧ P (t.resume?.getD t).phone
    cases hn : t.resume? with
    | none => exact ⟨h, ht⟩
    | some u => exact resume_keeps hP h ht hn
  | outside o => exact ⟨underway_outside h o, hP.outside o ht⟩

theorem run_keeps_phone (hP : Kept P) (h : t.Underway) (ht : P t.phone) (moves : List ThreadMove) :
    (t.run moves).Underway ∧ P (t.run moves).phone := by
  have moved (t : Thread) (m : ThreadMove) (h : t.Underway ∧ P t.phone) :
      (t.move m).Underway ∧ P (t.move m).phone := move_keeps hP h.1 h.2 m
  exact run_keeps moved ⟨h, ht⟩ moves

end Thread
end CallAudio

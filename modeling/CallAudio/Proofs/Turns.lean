import CallAudio.Proofs.Pauses

/-! Runs of the route thread told message by message: whenever the thread is idle its phone has come
about by messages that were each handled from start to end, and by what went on between them. -/
namespace CallAudio

/-- One message is handled, or something goes on outside before the next is. -/
inductive Turn where
  | outside (o : Outside)
  | handle (pauses : Pauses)

/-- Only such things go on outside, between the messages and while one of them waits. -/
def Turn.Only (ok : Outside → Prop) : Turn → Prop
  | .outside o => ok o
  | .handle pauses => pauses.Only ok

namespace Phone

/-- The phone after a message, handled to its end. -/
def handled (message : Message) (pauses : Pauses) (p : Phone) : Phone :=
  ((handle message p).finish pauses).phone

/-- The oldest message is handled; with an empty inbox nothing happens. -/
def turn (p : Phone) : Turn → Phone
  | .outside o => p.outside o
  | .handle pauses =>
    match p.inbox with
    | [] => p
    | message :: rest => { p with inbox := rest }.handled message pauses

def turns (p : Phone) (ts : List Turn) : Phone := ts.foldl turn p

/-- The turn handles a message of this kind. -/
def handles (p : Phone) (kind : Message → Bool) : Turn → Bool
  | .outside _ => false
  | .handle _ => p.inbox.head?.any kind

/-- None of the turns handles a message of this kind. -/
def handlesNone (p : Phone) (kind : Message → Bool) : List Turn → Bool
  | [] => true
  | t :: rest => !p.handles kind t && (p.turn t).handlesNone kind rest

/-- Turns lead from one phone to another. -/
def Reaches (ok : Outside → Prop) (p q : Phone) : Prop :=
  ∃ ts, (∀ t ∈ ts, Turn.Only ok t) ∧ p.turns ts = q

variable {ok : Outside → Prop} {p q : Phone}

theorem turn_handle {message : Message} {rest : List Message} (h : p.inbox = message :: rest)
    (pauses : Pauses) :
    p.turn (.handle pauses) = { p with inbox := rest }.handled message pauses := by
  simp only [turn, h]

theorem turn_handle_nil (h : p.inbox = []) (pauses : Pauses) : p.turn (.handle pauses) = p := by
  simp only [turn, h]

theorem turns_concat (p : Phone) (ts : List Turn) (t : Turn) :
    p.turns (ts ++ [t]) = (p.turns ts).turn t := by
  rw [turns, List.foldl_append]
  rfl

theorem handlesNone_cons {kind : Message → Bool} {t : Turn} {rest : List Turn} :
    p.handlesNone kind (t :: rest) = true ↔
      p.handles kind t = false ∧ (p.turn t).handlesNone kind rest = true := by
  rw [handlesNone, Bool.and_eq_true, Bool.not_eq_true']

theorem handlesNone_concat {kind : Message → Bool} {ts : List Turn} {t : Turn} :
    p.handlesNone kind (ts ++ [t]) = true ↔
      p.handlesNone kind ts = true ∧ (p.turns ts).handles kind t = false := by
  induction ts generalizing p with
  | nil =>
    rw [List.nil_append, handlesNone_cons, and_comm]
    rfl
  | cons first rest ih =>
    rw [List.cons_append, handlesNone_cons, handlesNone_cons, ih, and_assoc]
    rfl

theorem exists_of_handles {kind : Message → Bool} {t : Turn} (h : p.handles kind t = true) :
    ∃ pauses message rest, t = .handle pauses ∧ p.inbox = message :: rest ∧ kind message = true := by
  cases t with
  | outside o => cases h
  | handle pauses =>
    cases hi : p.inbox with
    | nil =>
      rw [handles, hi] at h
      cases h
    | cons message rest =>
      rw [handles, hi] at h
      exact ⟨pauses, message, rest, rfl, rfl, h⟩

theorem handles_of_queued {kind : Message → Bool} {message : Message} {rest : List Message}
    {pauses : Pauses} (h : p.inbox = message :: rest)
    (hk : p.handles kind (.handle pauses) = false) : kind message = false := by
  rw [handles, h] at hk
  exact hk

namespace Reaches

theorem refl (p : Phone) : Reaches ok p p := ⟨[], List.forall_mem_nil _, rfl⟩

theorem turn (h : Reaches ok p q) (t : Turn) (ht : t.Only ok) : Reaches ok p (q.turn t) := by
  obtain ⟨ts, hts, rfl⟩ := h
  refine ⟨ts ++ [t], fun u hu => ?_, turns_concat p ts t⟩
  rcases List.mem_append.mp hu with hu | hu
  · exact hts u hu
  · exact List.mem_singleton.mp hu ▸ ht

/-- What every turn keeps holds of whatever is reached. -/
theorem keeps {P : Phone → Prop} (h : Reaches ok p q) (hp : P p)
    (step : ∀ q t, Turn.Only ok t → P q → P (q.turn t)) : P q := by
  obtain ⟨ts, hts, rfl⟩ := h
  induction ts generalizing p with
  | nil => exact hp
  | cons t rest ih =>
    have first : P (p.turn t) := step p t (hts t List.mem_cons_self) hp
    exact ih first fun u hu => hts u (List.mem_cons_of_mem t hu)

end Reaches
end Phone

/-- Only such things go on outside during the run. -/
def ThreadMove.Only (ok : Outside → Prop) : ThreadMove → Prop
  | .outside o => ok o
  | _ => True

namespace Thread

variable {ok : Outside → Prop} {p : Phone} {t u : Thread}

/-- Between messages the thread is at a phone that turns lead to; a message in progress leads to one
however it ends. -/
def Turned (ok : Outside → Prop) (p : Phone) (t : Thread) : Prop :=
  match t.loop with
  | .unstarted | .running (.finished _) => p.Reaches ok t.phone
  | .running (.waiting _ resume) =>
    ∀ attached os pauses, (∀ o ∈ os, ok o) → pauses.Only ok →
      p.Reaches ok ((resume attached (t.phone.outsides os)).finish pauses).phone
  | .gone => True

theorem Turned.reaches (h : t.Turned ok p) (hi : t.isIdle = true) : p.Reaches ok t.phone := by
  unfold isIdle at hi
  unfold Turned at h
  split at hi
  · rename_i hl
    rwa [hl] at h
  · cases hi

theorem turned_of_step {s : Step Unit}
    (h : ∀ pauses, pauses.Only ok → p.Reaches ok (s.finish pauses).phone) :
    Turned ok p ⟨(Work.ofStep s).2, .running (Work.ofStep s).1⟩ := by
  cases s with
  | done value q => exact h (fun _ => ⟨true, []⟩) fun _ => List.forall_mem_nil _
  | wait q resume =>
    intro attached os pauses hos hp
    exact h (.cons ⟨attached, os⟩ pauses) (hp.cons hos)

theorem turned_handleNext (h : t.Turned ok p) (hu : t.handleNext? = some u) : u.Turned ok p := by
  obtain ⟨idle, message, rest, hi, rfl⟩ := handleNext?_cases hu
  have reached : p.Reaches ok t.phone := h.reaches idle
  apply turned_of_step
  intro pauses hp
  have next := reached.turn (.handle pauses) hp
  rwa [Phone.turn_handle hi] at next

theorem turned_resume (h : t.Turned ok p) (hu : t.resume? = some u) : u.Turned ok p := by
  obtain ⟨deadline, resume, attached, hl, rfl⟩ := resume?_cases hu
  unfold Turned at h
  rw [hl] at h
  -- The work goes on from the phone as it is now, with nothing left to happen before that.
  exact turned_of_step fun pauses hp => h attached [] pauses (List.forall_mem_nil _) hp

theorem turned_outside (h : t.Turned ok p) (o : Outside) (ho : ok o) :
    Turned ok p { t with phone := t.phone.outside o } := by
  obtain ⟨phone, loop⟩ := t
  have between (h : p.Reaches ok phone) : p.Reaches ok (phone.outside o) := h.turn (.outside o) ho
  cases loop with
  | unstarted => exact between h
  | gone => trivial
  | running work =>
    cases work with
    | finished => exact between h
    | waiting deadline resume =>
      intro attached os pauses hos hp
      exact h attached (o :: os) pauses (List.forall_mem_cons.mpr ⟨ho, hos⟩) hp

theorem turned_start (h : t.Turned ok p) : t.start.Turned ok p := by
  obtain ⟨phone, loop⟩ := t
  cases loop with
  | unstarted | running | gone => exact h

theorem turned_move (h : t.Turned ok p) (m : ThreadMove) (hm : m.Only ok) :
    (t.move m).Turned ok p := by
  cases m with
  | start => exact turned_start h
  | stop => trivial
  | handle =>
    change (t.handleNext?.getD t).Turned ok p
    cases hn : t.handleNext? with
    | none => exact h
    | some u => exact turned_handleNext h hn
  | resume =>
    change (t.resume?.getD t).Turned ok p
    cases hn : t.resume? with
    | none => exact h
    | some u => exact turned_resume h hn
  | outside o => exact turned_outside h o hm

theorem turned_run (h : t.Turned ok p) (moves : List ThreadMove) (hm : ∀ m ∈ moves, m.Only ok) :
    (t.run moves).Turned ok p := by
  induction moves generalizing t with
  | nil => exact h
  | cons m rest ih =>
    have moved : (t.move m).Turned ok p := turned_move h m (hm m List.mem_cons_self)
    exact ih moved fun n hn => hm n (List.mem_cons_of_mem m hn)

theorem turned_fresh (config : RouteConfig) (attached : List Profile) :
    (fresh config attached).Turned ok (.start config attached) := .refl _

/-- Wherever a run leaves the thread idle, turns lead there. -/
theorem reaches_fresh_run (config : RouteConfig) (attached : List Profile) (moves : List ThreadMove)
    (hi : ((fresh config attached).run moves).isIdle = true) :
    Phone.Reaches (fun _ => True) (.start config attached)
      ((fresh config attached).run moves).phone :=
  (turned_run (turned_fresh config attached) moves fun m _ => by cases m <;> trivial).reaches hi

end Thread
end CallAudio

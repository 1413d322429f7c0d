import CallAudio.Proofs.Throughout

/-! What holds between the messages of a run. While a message is being worked on less may hold, and what is
known of it then takes into account what went on outside since it was taken. -/
namespace CallAudio

variable {α : Type} {L P : Phone → Prop}

/-- What a step upholds it also has along its way, if nothing that goes on outside destroys that. -/
theorem Step.Upholds.along {s : Step α} {post : α → Phone → Prop} (h : s.Upholds P post)
    (outside : ∀ p o, P p → P (p.outside o)) (ends : ∀ value q, post value q → P q) (start : Phone) :
    s.Along (fun _ q => P q) start post := by
  have outsides (os : List Outside) (p : Phone) (hp : P p) : P (p.outsides os) := by
    induction os generalizing p with
    | nil => exact hp
    | cons o rest ih => exact ih (p.outside o) (outside p o hp)
  induction s with
  | done value q => exact ⟨ends value q h, h⟩
  | wait q resume ih =>
    refine ⟨h.1, ?_⟩
    intro attached os
    exact ih attached _ (h.2 attached _ (outsides os q h.1))

namespace Thread

/-- Between messages `P` holds. While one of them waits `L` does, and its work leads back to `P`. -/
def Between (L P : Phone → Prop) (t : Thread) : Prop :=
  match t.loop with
  | .unstarted | .running (.finished _) => P t.phone
  | .running (.waiting _ resume) => L t.phone ∧ ∀ attached os,
      (resume attached (t.phone.outsides os)).Along (fun _ q => L q) t.phone fun _ q => P q
  | .gone => L t.phone

variable {t u : Thread}

theorem Between.always (weaker : ∀ p, P p → L p) (h : t.Between L P) : L t.phone := by
  unfold Between at h
  split at h
  · exact weaker _ h
  · exact weaker _ h
  · exact h.1
  · exact h

theorem Between.of_idle (h : t.Between L P) (idle : t.isIdle = true) : P t.phone := by
  unfold isIdle at idle
  unfold Between at h
  split at idle
  · rename_i hl
    rwa [hl] at h
  · cases idle

theorem between_ofStep {s : Step Unit} {p : Phone}
    (h : s.Along (fun _ q => L q) p fun _ q => P q) :
    Between L P ⟨(Work.ofStep s).2, .running (Work.ofStep s).1⟩ := by
  cases s with
  | done value q => exact h.2
  | wait q resume =>
    refine ⟨h.1, fun attached os => ?_⟩
    exact (h.2 attached os).mono (fun _ hq => hq) fun _ _ _ hq => hq

theorem Between.resume (h : t.Between L P) (hu : t.resume? = some u) : u.Between L P := by
  obtain ⟨deadline, resume, attached, hl, rfl⟩ := resume?_cases hu
  unfold Between at h
  rw [hl] at h
  exact between_ofStep (h.2 attached [])

theorem Between.outside (h : t.Between L P) (o : Outside) (keepsL : ∀ p o, L p → L (p.outside o))
    (keepsP : ∀ p o, P p → P (p.outside o)) :
    Between L P { t with phone := t.phone.outside o } := by
  obtain ⟨phone, loop⟩ := t
  cases loop with
  | unstarted => exact keepsP phone o h
  | gone => exact keepsL phone o h
  | running work =>
    cases work with
    | finished => exact keepsP phone o h
    | waiting deadline resume =>
      refine ⟨keepsL phone o h.1, fun attached os => ?_⟩
      exact (h.2 attached (o :: os)).mono (fun _ hq => hq) fun _ _ _ hq => hq

/-- If each message leads from `P` to `P` again by way of `L`, a run has `P` between its messages. -/
theorem between_run (h : t.Between L P) (weaker : ∀ p, P p → L p)
    (keepsL : ∀ p o, L p → L (p.outside o)) (keepsP : ∀ p o, P p → P (p.outside o))
    (stops : ∀ t : Thread, L t.phone → L t.stop.phone)
    (handles : ∀ p message rest, P p → p.inbox = message :: rest →
      (Phone.handle message { p with inbox := rest }).Along (fun _ q => L q) p fun _ q => P q)
    (moves : List ThreadMove) : (t.run moves).Between L P := by
  refine run_keeps (fun t m h => ?_) h moves
  cases m with
  | start =>
    obtain ⟨phone, loop⟩ := t
    cases loop with
    | unstarted | running | gone => exact h
  | stop => exact stops t (h.always weaker)
  | handle =>
    change (t.handleNext?.getD t).Between L P
    cases hn : t.handleNext? with
    | none => exact h
    | some u =>
      obtain ⟨idle, message, rest, hi, rfl⟩ := handleNext?_cases hn
      exact between_ofStep (handles t.phone message rest (h.of_idle idle) hi)
  | resume =>
    change (t.resume?.getD t).Between L P
    cases hn : t.resume? with
    | none => exact h
    | some u => exact h.resume hn
  | outside o => exact h.outside o keepsL keepsP

end Thread
end CallAudio

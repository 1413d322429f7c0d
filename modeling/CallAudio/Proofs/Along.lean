import CallAudio.Proofs.Run

/-! Steps followed through their waits. `Along R p post` says that `R` leads from `p` to wherever
the step stops, whatever goes on outside while it waits, and that `post` holds at its end. -/
namespace CallAudio

variable {α β : Type} {R : Phone → Phone → Prop} {p : Phone}

/-- A relation that can be followed through a step and its waits. -/
structure Passage (R : Phone → Phone → Prop) : Prop where
  refl : ∀ p, R p p
  trans : ∀ {p q r}, R p q → R q r → R p r
  outside : ∀ p o, R p (p.outside o)

theorem Passage.outsides (hR : Passage R) (p : Phone) (os : List Outside) : R p (p.outsides os) := by
  induction os generalizing p with
  | nil => exact hR.refl p
  | cons o rest ih => exact hR.trans (hR.outside p o) (ih _)

namespace Step

def Along (R : Phone → Phone → Prop) (p : Phone) (post : α → Phone → Prop) : Step α → Prop
  | .done value q => R p q ∧ post value q
  | .wait q resume => R p q ∧ ∀ attached os, (resume attached (q.outsides os)).Along R p post

variable {post : α → Phone → Prop} {s : Step α}

theorem Along.mono {R' : Phone → Phone → Prop} {p' : Phone} {post' : α → Phone → Prop}
    (h : s.Along R p post) (hR : ∀ q, R p q → R' p' q)
    (hp : ∀ value q, R p q → post value q → post' value q) : s.Along R' p' post' := by
  induction s with
  | done value q => exact ⟨hR q h.1, hp value q h.1 h.2⟩
  | wait q resume ih =>
    refine ⟨hR q h.1, fun attached os => ?_⟩
    exact ih _ _ (h.2 attached os)

/-- A step that starts further along the way. -/
theorem Along.after {q : Phone} (hR : Passage R) (hq : R p q) (h : s.Along R q post) :
    s.Along R p post :=
  h.mono (fun _ hr => hR.trans hq hr) fun _ _ _ hv => hv

theorem Along.bind {next : α → Job β} {post' : β → Phone → Prop} (h : s.Along R p post)
    (hn : ∀ value q, R p q → post value q → (next value q).Along R p post') :
    (s.bind next).Along R p post' := by
  induction s with
  | done value q => exact hn value q h.1 h.2
  | wait q resume ih => exact ⟨h.1, fun attached os => ih _ _ (h.2 attached os)⟩

end Step

namespace Job

/-- The job is followed from `p`, where it starts. -/
def Along (job : Job α) (R : Phone → Phone → Prop) (p : Phone) (post : α → Phone → Prop) : Prop :=
  Step.Along R p post (job p)

variable {job : Job α} {post : α → Phone → Prop}

theorem Along.mono {R' : Phone → Phone → Prop} {post' : α → Phone → Prop} (h : job.Along R p post)
    (hR : ∀ q, R p q → R' p q) (hp : ∀ value q, R p q → post value q → post' value q) :
    job.Along R' p post' :=
  Step.Along.mono h hR hp

theorem Along.post_mono {post' : α → Phone → Prop} (h : job.Along R p post)
    (hp : ∀ value q, R p q → post value q → post' value q) : job.Along R p post' :=
  h.mono (fun _ hq => hq) hp

/-- One job after another; the second goes on from where the first ended. -/
theorem Along.bind {next : α → Job β} {post' : β → Phone → Prop} (h : job.Along R p post)
    (hR : Passage R) (hn : ∀ value q, R p q → post value q → (next value).Along R q post') :
    (job >>= next).Along R p post' :=
  Step.Along.bind h fun value q hq hv => (hn value q hq hv).after hR hq

theorem along_pure {value : α} (hR : Passage R) (hv : post value p) :
    (pure value : Job α).Along R p post := ⟨hR.refl p, hv⟩

theorem along_update {f : Phone → Phone} {post : Unit → Phone → Prop} (hf : R p (f p))
    (hv : post () (f p)) : (Job.update f).Along R p post := ⟨hf, hv⟩

theorem along_read_bind {next : Phone → Job β} {post : β → Phone → Prop}
    (hn : (next p).Along R p post) : (Job.read >>= next).Along R p post := hn

theorem along_update_bind {f : Phone → Phone} {next : Unit → Job β} {post : β → Phone → Prop}
    (hR : Passage R) (hf : R p (f p)) (hn : (next ()).Along R (f p) post) :
    (Job.update f >>= next).Along R p post :=
  Step.Along.after hR hf hn

/-- What comes after an update, told from where the update has left the phone. -/
theorem along_of_update_bind {f : Phone → Phone} {next : Unit → Job β} {post : β → Phone → Prop}
    (hn : (next ()).Along R (f p) post) : Step.Along R (f p) post ((Job.update f >>= next) p) := hn

theorem along_change_bind {f : Phone → α × Phone} {next : α → Job β} {post : β → Phone → Prop}
    (hR : Passage R) (hf : R p (f p).2) (hn : (next (f p).1).Along R (f p).2 post) :
    (Job.change f >>= next).Along R p post :=
  Step.Along.after hR hf hn

theorem along_awaitHeadset_bind {next : Bool → Job β} {post : β → Phone → Prop} (hR : Passage R)
    (hn : ∀ attached os, (next attached).Along R (p.outsides os) post) :
    (Job.awaitHeadset >>= next).Along R p post := by
  change Step.Along R p post ((Job.awaitHeadset p).bind next)
  unfold Job.awaitHeadset
  -- With the service attached there is no wait, and nothing goes on outside.
  split
  · exact hn true []
  · exact ⟨hR.refl p, fun attached os => (hn attached os).after hR (hR.outsides p os)⟩

end Job

namespace Work

/-- Work in progress that stays on the way from `p`, given what goes on outside. -/
def Along (R : Phone → Phone → Prop) (p : Phone) (q : Phone) : Work Unit → Prop
  | .finished _ => True
  | .waiting _ resume =>
    ∀ attached os, (resume attached (q.outsides os)).Along R p fun _ _ => True

theorem along_ofStep {s : Step Unit} (h : s.Along R p fun _ _ => True) :
    R p (ofStep s).2 ∧ (ofStep s).1.Along R p (ofStep s).2 := by
  cases s with
  | done value q => exact ⟨h.1, trivial⟩
  | wait q resume => exact h

theorem Along.outside {q : Phone} {w : Work Unit} (h : w.Along R p q) (o : Outside) :
    w.Along R p (q.outside o) := by
  cases w with
  | finished => trivial
  | waiting deadline resume => exact fun attached os => h attached (o :: os)

theorem Along.resume {q q' : Phone} {w w' : Work Unit} (h : w.Along R p q)
    (hr : w.resume? q = some (w', q')) : R p q' ∧ w'.Along R p q' := by
  obtain ⟨deadline, resume, attached, rfl, hw⟩ := resume?_cases hr
  obtain ⟨rfl, rfl⟩ := Prod.mk.inj hw
  exact along_ofStep (h attached [])

end Work
end CallAudio

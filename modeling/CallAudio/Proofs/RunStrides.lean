import CallAudio.Proofs.CoordinatorStrides

/-! A run of the thread, or of the machine used alone, is a sequence of strides. -/
namespace CallAudio

namespace Thread

/-- Strides lead from the phone to the thread, whose work in progress goes on by strides. -/
def Onward (p : Phone) (t : Thread) : Prop :=
  match t.loop with
  | .unstarted => Via Stride p t.phone
  | .running work => Via Stride p t.phone ∧ work.Along (Via Stride) p t.phone
  | .gone => Via LoopStride p t.phone

theorem Onward.via {p : Phone} {t : Thread} (h : t.Onward p) : Via LoopStride p t.phone := by
  unfold Onward at h
  split at h
  · exact h.mono fun _ _ => .stride
  · exact h.1.mono fun _ _ => .stride
  · exact h

/-- Nothing is lost from the inbox of a thread that runs. -/
theorem Onward.via_of_idle {p : Phone} {t : Thread} (h : t.Onward p) (hi : t.isIdle = true) :
    Via Stride p t.phone := by
  unfold Onward at h
  split at h
  · exact h
  · exact h.1
  · rename_i hl
    simp [isIdle, hl] at hi

theorem onward_idle {t : Thread} (hi : t.isIdle = true) : t.Onward t.phone := by
  unfold isIdle at hi
  unfold Onward
  split at hi
  · rename_i hl
    rw [hl]
    exact ⟨.refl, trivial⟩
  · cases hi

theorem onward_fresh (config : RouteConfig) (attached : List Profile) :
    (fresh config attached).Onward (.start config attached) :=
  Via.of_view_eq rfl

theorem onward_of_step {p : Phone} {s : Step Unit} (h : s.Along (Via Stride) p fun _ _ => True) :
    Onward p ⟨(Work.ofStep s).2, .running (Work.ofStep s).1⟩ :=
  Work.along_ofStep h

theorem onward_handleNext {p : Phone} {t u : Thread} (h : t.Onward p)
    (hu : t.handleNext? = some u) : u.Onward p := by
  obtain ⟨idle, message, rest, hi, rfl⟩ := handleNext?_cases hu
  -- As the thread is idle, nothing was lost from its inbox.
  have hv : Via Stride p t.phone := h.via_of_idle idle
  exact onward_of_step ((Phone.handle_along t.phone message rest hi).after stridePassage hv)

theorem onward_resume {p : Phone} {t u : Thread} (h : t.Onward p) (hu : t.resume? = some u) :
    u.Onward p := by
  unfold resume? at hu
  unfold Onward at h
  split at hu
  · rename_i work hl
    obtain ⟨⟨work', phone⟩, hr, rfl⟩ := Option.map_eq_some_iff.mp hu
    rw [hl] at h
    exact h.2.resume hr
  · cases hu

theorem onward_start {p : Phone} {t : Thread} (h : t.Onward p) : t.start.Onward p := by
  unfold start
  unfold Onward at h
  split
  · rename_i hl
    rw [hl] at h
    exact ⟨h, trivial⟩
  · exact h

theorem onward_outside {p : Phone} {t : Thread} (h : t.Onward p) (o : Outside) :
    Onward p { t with phone := t.phone.outside o } := by
  have strides : Via Stride t.phone (t.phone.outside o) := Via.outside (fun _ _ => .quiet) _ o
  obtain ⟨phone, loop⟩ := t
  cases loop with
  | unstarted => exact Via.trans h strides
  | running work => exact ⟨h.1.trans strides, h.2.outside o⟩
  | gone => exact Via.trans h (strides.mono fun _ _ => .stride)

theorem onward_move {p : Phone} (t : Thread) (m : ThreadMove) (h : t.Onward p) :
    (t.move m).Onward p := by
  cases m with
  | start => exact onward_start h
  | stop => exact h.via.trans (Via.single (.cleared (v := t.phone.view)))
  | handle =>
    change (t.handleNext?.getD t).Onward p
    cases hn : t.handleNext? with
    | none => exact h
    | some u => exact onward_handleNext h hn
  | resume =>
    change (t.resume?.getD t).Onward p
    cases hn : t.resume? with
    | none => exact h
    | some u => exact onward_resume h hn
  | outside o => exact onward_outside h o

/-- A run goes on by strides from any phone that leads to its start. -/
theorem onward_run {p : Phone} {t : Thread} (h : t.Onward p) (moves : List ThreadMove) :
    (t.run moves).Onward p := run_keeps onward_move h moves

theorem via_run (config : RouteConfig) (attached : List Profile) (moves : List ThreadMove) :
    Via LoopStride (.start config attached) ((fresh config attached).run moves).phone :=
  (onward_run (onward_fresh config attached) moves).via

end Thread

namespace Session

def Onward (p : Phone) (s : Session) : Prop :=
  Via MachineStride p s.phone ∧ s.work.Along (Via MachineStride) p s.phone

theorem onward_of_step {p : Phone} {s : Step Unit}
    (h : s.Along (Via MachineStride) p fun _ _ => True) : Onward p (ofWork (Work.ofStep s)) :=
  Work.along_ofStep h

end Session

theorem MachineCall.along (c : MachineCall) (p : Phone) :
    c.job.Along (Via MachineStride) p fun _ _ => True := by
  have hR := machinePassage
  cases c with
  | deviceAdded device profile =>
    exact Job.along_update ((Phone.onDeviceAdded_quiet p _ _).mono fun _ _ => .quiet) trivial
  | deviceLost address profile => exact Phone.onDeviceLost_along p address profile
  | activeDeviceChanged profile address =>
    exact Job.along_update ((Phone.onActiveDeviceChanged_quiet p _ _).mono fun _ _ => .quiet) trivial
  | connect requested attempt =>
    exact (Phone.connect_along p requested attempt).bind hR fun _ _ _ _ => Job.along_pure hR trivial
  | retryConnect address attempt =>
    exact (Phone.retryConnect_along p address attempt).bind hR fun _ _ _ _ =>
      Job.along_pure hR trivial
  | disconnect => exact (Phone.disconnect_quiet p).along.post_mono fun _ _ _ _ => trivial
  | connectionTimeout address => exact Phone.onConnectionTimeout_along p address
  | audioOn address => exact Job.along_update (Phone.onAudioOn_along p address) trivial
  | audioLost address => exact Phone.onAudioLost_along p address

namespace Session

theorem onward_move {p : Phone} (s : Session) (m : SessionMove) (h : s.Onward p) :
    (s.move m).Onward p := by
  obtain ⟨hv, hw⟩ := h
  cases m with
  | call c =>
    obtain ⟨phone, work⟩ := s
    cases work with
    | finished => exact onward_of_step (Step.Along.after machinePassage hv (c.along phone))
    | waiting => exact ⟨hv, hw⟩
  | resume =>
    change (((s.work.resume? s.phone).map ofWork).getD s).Onward p
    cases hr : s.work.resume? s.phone with
    | none => exact ⟨hv, hw⟩
    | some w => exact hw.resume hr
  | outside o => exact ⟨hv.trans (Via.outside (fun _ _ => .quiet) s.phone o), hw.outside o⟩

theorem onward_fresh (config : RouteConfig) (attached : List Profile) :
    (fresh config attached).Onward (.start config attached) := ⟨.refl, trivial⟩

theorem via_run (config : RouteConfig) (attached : List Profile) (moves : List SessionMove) :
    Via MachineStride (.start config attached) ((fresh config attached).run moves).phone :=
  (run_keeps onward_move (onward_fresh config attached) moves).1

end Session
end CallAudio

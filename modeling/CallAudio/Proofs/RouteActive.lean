import CallAudio.Proofs.Earned
import CallAudio.Proofs.RunStrides
import CallAudio.Proofs.Transition.Effect

/-! When a Bluetooth route is announced to be active, the transition begun last brought audio to the
device, or had no need to. -/
namespace CallAudio

/-- A confirmation of audio that somebody else than the thread itself gives. -/
def Happening.isForeignAudio : Happening → Bool
  | .handled (.confirmation c) => c.token.signal = .bluetoothAudioConnected
  | _ => false

structure Accounted (v : RouteView) : Prop where
  active : v.tracker.active = (activity v.journal).resolved
  pending : ∀ p, v.tracker.pending = some p → Backed v.journal v.state p
  earned : ∀ earlier later r s, v.journal = earlier ++ ⟨.announced (.routeActive r), s⟩ :: later →
    Earned earlier r s

namespace Accounted

variable {v w : RouteView}

theorem initial (config : RouteConfig) (attached : List Profile) :
    Accounted (Phone.start config attached).view := by
  refine ⟨rfl, fun p hp => ?_, fun earlier later r s h => ?_⟩
  · cases hp
  · exact absurd h.symm (List.append_ne_nil_of_right_ne_nil _ (List.cons_ne_nil _ _))

/-- What is earned stays earned, and so it is enough to look at the last entry. -/
theorem earned_snoc (h : Accounted v) {e : JournalEntry}
    (he : ∀ r, e.happening = .announced (.routeActive r) → Earned v.journal r e.state)
    (earlier later : List JournalEntry) (r : AudioRoute) (s : RouteState)
    (hj : v.journal ++ [e] = earlier ++ ⟨.announced (.routeActive r), s⟩ :: later) :
    Earned earlier r s := by
  -- The announcement is the new entry or an earlier one.
  rcases List.eq_nil_or_concat later with rfl | ⟨later, last, rfl⟩
  · obtain ⟨rfl, hl⟩ := List.append_inj' hj rfl
    obtain rfl := List.singleton_inj.mp hl
    exact he r rfl
  · rw [List.concat_eq_append, ← List.cons_append, ← List.append_assoc] at hj
    exact h.earned earlier later r s (List.append_inj' hj rfl).1

theorem entry (h : Accounted v) (e : JournalEntry) (ht : w.tracker = v.tracker)
    (hj : w.journal = v.journal ++ [e]) (hs : w.state = e.happening.audioState?.getD v.state)
    (hb : e.happening.isBegun = false) (hr : ∀ r, e.happening ≠ .announced (.routeActive r)) :
    Accounted w := by
  refine ⟨?_, fun p hp => ?_, ?_⟩
  · rw [ht, hj, activity_snoc, Activity.after_resolved _ hr]
    exact h.active
  · rw [hj, hs]
    exact (h.pending p (ht ▸ hp)).snoc hb
  · rw [hj]
    exact h.earned_snoc fun r he => absurd he (hr r)

theorem quiet (h : Accounted v) (hq : QuietStride v w) : Accounted w := by
  cases hq with
  | post => exact ⟨h.active, h.pending, h.earned⟩
  | record happening hh =>
    refine h.entry ⟨happening, v.state⟩ rfl rfl ?_ ?_ ?_
    · cases happening with
      | told event =>
        change v.state = event.audioState?.getD v.state
        rw [Option.isNone_iff_eq_none.mp hh, Option.getD_none]
      | _ => rfl
    · exact Happening.isBegun_of_isQuiet hh
    · rintro r rfl
      cases hh

theorem machine (h : Accounted v) (hm : MachineStride v w) : Accounted w := by
  cases hm with
  | quiet hq => exact h.quiet hq
  | off => exact h.entry ⟨.told .audioDisconnected, .audioOff⟩ rfl rfl rfl rfl nofun
  | connecting address =>
    exact h.entry ⟨.told (.audioConnecting address), v.state⟩ rfl rfl rfl rfl nofun
  | connected address =>
    exact h.entry ⟨.told (.audioConnected address), .connected address⟩ rfl rfl rfl rfl nofun
  | reaffirmed address hs =>
    exact h.entry ⟨.told (.audioConnected address), v.state⟩ rfl rfl hs rfl nofun

theorem dropped (h : Accounted v) :
    Accounted { v with tracker := { v.tracker with pending := none } } := by
  refine ⟨h.active, fun p hp => ?_, h.earned⟩
  cases hp

theorem fellBack (h : Accounted v) (exclude : Option Address) :
    Accounted ({ v with tracker := { v.tracker with pending := none } }.recorded
      (.announced (.switchToBaseline exclude))) :=
  h.dropped.entry ⟨.announced (.switchToBaseline exclude), v.state⟩ rfl rfl rfl rfl nofun

theorem begun (h : Accounted v) (origin destination : AudioRoute) (destinationActive : Bool)
    (ticket : Ticket) (earlier : List JournalEntry)
    (hj : v.journal = earlier ++
      [⟨.handled (.beginTransition origin destination destinationActive ticket), v.state⟩]) :
    Accounted (v.begun origin destination destinationActive) := by
  let actions :=
    (TransitionPlan.between v.tracker.active origin destination destinationActive).actions
  let e : JournalEntry := ⟨.begun v.tracker.nextId actions, v.state⟩
  have hw : (v.begun origin destination destinationActive).journal = v.journal ++ [e] := rfl
  -- The last entry is the begin that was handled, so what it asked for is what is begun.
  have asked : (activity v.journal).asked = destinationActive := by
    rw [hj, activity_snoc]
    rfl
  have resolved : (activity earlier).resolved = v.tracker.active := by
    rw [h.active, hj, activity_snoc]
    rfl
  have last : LastBegun (v.journal ++ [e]) earlier origin destination destinationActive := by
    refine ⟨ticket, v.tracker.nextId, actions, v.state, ?_⟩
    have fresh : sinceBegun (v.journal ++ [e]) = [] := sinceBegun_snoc v.journal e
    rw [fresh, hj, List.append_assoc]
    rfl
  refine ⟨?_, fun p hp => ?_, ?_⟩
  · rw [hw, activity_snoc]
    exact h.active
  · obtain rfl := Option.some.inj hp
    rw [hw]
    refine ⟨?_, earlier, last, fun address hn => Or.inl ?_⟩
    · rw [activity_snoc]
      exact asked.symm
    · have awaited := hn.mem_tokens
      rwa [resolved] at awaited
  · rw [hw]
    exact h.earned_snoc nofun

theorem resolved (h : Accounted v) {p : PendingTransition} (hp : v.tracker.pending = some p)
    (he : p.outstanding = []) :
    Accounted ({ v with tracker :=
      { v.tracker with pending := none, active := p.destinationActive } }.recorded
        (.announced (.routeActive p.destination))) := by
  have backed := h.pending p hp
  refine ⟨?_, fun q hq => ?_, ?_⟩
  · change p.destinationActive = (activity (v.journal ++ [_])).resolved
    rw [activity_snoc, backed.1]
    rfl
  · cases hq
  · apply h.earned_snoc
    intro r hr
    cases hr
    exact backed.earned he

theorem settled (h : Accounted v) : Accounted (v.tracked TransitionTracker.settle) := by
  rcases v.tracker.settle_cases with hs | ⟨p, hp, he, hs⟩
  · rwa [RouteView.tracked_of_unchanged hs]
  · unfold RouteView.tracked
    rw [hs]
    exact h.resolved hp he

theorem failed (h : Accounted v) (failed : Option Address) :
    Accounted (v.tracked (·.fail failed)) := by
  rcases v.tracker.fail_cases failed with ⟨-, hs⟩ | ⟨p, -, hs⟩
  · rwa [RouteView.tracked_of_unchanged hs]
  · unfold RouteView.tracked
    simp only [hs]
    exact h.fellBack _

theorem timedOut (h : Accounted v) (id : TransitionId) :
    Accounted (v.tracked (·.timeOut id)) := by
  rcases v.tracker.timeOut_cases id with hs | ⟨p, -, -, hs⟩
  · rwa [RouteView.tracked_of_unchanged hs]
  · have same : v.tracked (·.timeOut id) = v.tracked (·.fail none) := RouteView.tracked_eq hs
    rw [same]
    exact h.failed none

/-- A confirmation that speaks of audio may be taken if it is true. -/
theorem confirmed (h : Accounted v) (c : Confirmation)
    (hc : ∀ address, c.token = ⟨.bluetoothAudioConnected, some address⟩ →
      AudioSince v.journal v.state address) : Accounted (v.tracked (·.confirm c)) := by
  rcases v.tracker.confirm_cases c with hs | ⟨p, i, token, hp, -, hi, ht, hs⟩
  · rwa [RouteView.tracked_of_unchanged hs]
  · let t : TransitionTracker :=
      { v.tracker with pending := some { p with outstanding := swapErase p.outstanding i } }
    -- The one token taken off stands for audio that came.
    have trimmed : Accounted { v with tracker := t } := by
      refine ⟨h.active, fun q hq => ?_, h.earned⟩
      obtain rfl := Option.some.inj hq
      apply (h.pending p hp).trimmed hi
      rintro address rfl
      exact hc address (ConfirmationToken.eq_of_isSatisfiedBy ht)
    have same : v.tracked (·.confirm c) = { v with tracker := t }.tracked TransitionTracker.settle :=
      RouteView.tracked_eq hs
    rw [same]
    exact trimmed.settled

theorem licensed (h : Accounted v) (own : ∀ e ∈ v.journal, e.happening.isForeignAudio = false)
    {f : TransitionTracker → Option TransitionOutcome × TransitionTracker} (hf : Licensed v f) :
    Accounted (v.tracked f) := by
  cases hf with
  | settle => exact h.settled
  | fail failed => exact h.failed failed
  | timeOut id => exact h.timedOut id
  | received c state hm =>
    -- Handled as a message it would be foreign.
    apply h.confirmed c
    intro address hc
    have foreign := own _ hm
    simp [Happening.isForeignAudio, hc] at foreign
  | own id signal address hs =>
    apply h.confirmed _
    intro other hc
    obtain ⟨rfl, ha⟩ := ConfirmationToken.mk.inj hc
    obtain rfl := Option.some.inj ha
    obtain ⟨state, heard⟩ := hs rfl
    exact AudioSince.of_heard state heard

theorem stride (h : Accounted v) (own : ∀ e ∈ v.journal, e.happening.isForeignAudio = false)
    (hs : Stride v w) : Accounted w := by
  cases hs with
  | machine hm => exact h.machine hm
  | taken message rest => exact h.entry ⟨.handled message, v.state⟩ rfl rfl rfl rfl nofun
  | begun origin destination destinationActive ticket earlier hj =>
    exact h.begun origin destination destinationActive ticket earlier hj
  | tracked f hf => exact h.licensed own hf
  | abandoned exclude => exact h.fellBack exclude

theorem loop (h : Accounted v) (own : ∀ e ∈ v.journal, e.happening.isForeignAudio = false)
    (hs : LoopStride v w) : Accounted w := by
  cases hs with
  | stride hs => exact h.stride own hs
  | cleared => exact ⟨h.active, h.pending, h.earned⟩

end Accounted

/-- Nobody but the thread itself gives confirmations of audio; then a route that is announced to be
active has earned it. -/
theorem route_active_earned (config : RouteConfig) (attached : List Profile)
    (moves : List ThreadMove)
    (own : ∀ e ∈ ((Thread.fresh config attached).run moves).phone.journal,
      e.happening.isForeignAudio = false)
    (earlier later : List JournalEntry) (r : AudioRoute) (s : RouteState)
    (hj : ((Thread.fresh config attached).run moves).phone.journal =
      earlier ++ ⟨.announced (.routeActive r), s⟩ :: later) : Earned earlier r s := by
  -- The premise speaks of the whole journal, so what is kept is that it implies the accounts.
  have kept (v w : RouteView) (stride : LoopStride v w)
      (hv : (∀ e ∈ v.journal, e.happening.isForeignAudio = false) → Accounted v)
      (hw : ∀ e ∈ w.journal, e.happening.isForeignAudio = false) : Accounted w := by
    have before : ∀ e ∈ v.journal, e.happening.isForeignAudio = false := by
      intro e he
      exact hw e (stride.journal_prefix.subset he)
    exact (hv before).loop before stride
  have accounted := (Thread.via_run config attached moves).keeps kept
    (fun _ => Accounted.initial config attached) own
  exact accounted.earned earlier later r s hj

/-- Audio comes on the headset, which then becomes the communication device. -/
theorem route_active_earned_on_headset :
    let headset : Address := ⟨10, 0, 0, 0, 0, 1⟩
    let route : AudioRoute := ⟨.bluetoothSco, some headset⟩
    let device : CommunicationDevice := ⟨1, .bluetoothSco, some headset⟩
    let moves : List ThreadMove := [.start,
      .outside (.event (.event (.connectionChanged .classicHeadset ⟨headset, .audioSink⟩ .connected))),
      .handle, .outside (.platform { audio := { available := [device] } }),
      .outside (.post (.beginTransition ⟨.earpiece, none⟩ route true 0)), .handle,
      .outside (.event (.event (.scoChanged headset .connected))), .handle,
      .outside (.event (.communicationDeviceChanged (some device))), .handle]
    let journal := ((Thread.fresh {} [.classicHeadset]).run moves).phone.journal
    (∀ e ∈ journal, e.happening.isForeignAudio = false) ∧
      journal = journal.dropLast ++ [⟨.announced (.routeActive route), .connected headset⟩] ∧
      Earned journal.dropLast route (.connected headset) := by
  intro headset route device moves journal
  have own : ∀ e ∈ journal, e.happening.isForeignAudio = false := by decide
  have last : journal = journal.dropLast ++
      [⟨.announced (.routeActive route), .connected headset⟩] := by decide
  exact ⟨own, last, route_active_earned {} [.classicHeadset] moves own _ [] _ _ last⟩

/-- A destination that is to carry no audio is announced active with audio off; so is one that lost
its audio before it became the communication device. -/
theorem route_active_without_audio :
    let headset : Address := ⟨10, 0, 0, 0, 0, 1⟩
    let route : AudioRoute := ⟨.bluetoothSco, some headset⟩
    let device : CommunicationDevice := ⟨1, .bluetoothSco, some headset⟩
    let silent : List ThreadMove := [.start,
      .outside (.post (.beginTransition ⟨.earpiece, none⟩ route false 0)), .handle]
    let lost : List ThreadMove := [.start,
      .outside (.event (.event (.connectionChanged .classicHeadset ⟨headset, .audioSink⟩ .connected))),
      .handle, .outside (.platform { audio := { available := [device] } }),
      .outside (.post (.beginTransition ⟨.earpiece, none⟩ route true 0)), .handle,
      .outside (.event (.event (.scoChanged headset .connected))), .handle,
      .outside (.event (.event (.scoChanged headset .disconnected))), .handle,
      .outside (.event (.communicationDeviceChanged (some device))), .handle]
    let journal (moves : List ThreadMove) :=
      ((Thread.fresh {} [.classicHeadset]).run moves).phone.journal
    (∀ e ∈ journal silent ++ journal lost, e.happening.isForeignAudio = false) ∧
      ⟨.announced (.routeActive route), .audioOff⟩ ∈ journal silent ∧
      ⟨.announced (.routeActive route), .audioOff⟩ ∈ journal lost := by
  decide

end CallAudio

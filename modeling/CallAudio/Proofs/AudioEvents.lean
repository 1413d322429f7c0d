import CallAudio.Proofs.RunStrides

/-! The audio events tell the state: a listener that follows them is never out of step. -/
namespace CallAudio

/-- The last audio event says where audio is, and audio is back before it is lost again. -/
structure EventsTell (state : RouteState) (events : List RouteEvent) : Prop where
  last : state = (events.filterMap RouteEvent.audioState?).getLast?.getD .audioOff
  back : ∀ l m r, events = l ++ .audioDisconnected :: m ++ .audioDisconnected :: r →
    ∃ address, .audioConnecting address ∈ m ∨ .audioConnected address ∈ m

namespace EventsTell

variable {state : RouteState} {events : List RouteEvent}

theorem initial : EventsTell .audioOff [] := by
  refine ⟨rfl, fun l m r h => ?_⟩
  simp at h

/-- Events after a loss of audio that do not leave it off contain one that brings it back. -/
theorem back_of_last (l m : List RouteEvent) (h : ((l ++ .audioDisconnected :: m).filterMap
    RouteEvent.audioState?).getLast?.getD .audioOff ≠ .audioOff) :
    ∃ address, .audioConnecting address ∈ m ∨ .audioConnected address ∈ m := by
  have hs : (l ++ .audioDisconnected :: m).filterMap RouteEvent.audioState? =
      l.filterMap RouteEvent.audioState? ++
        .audioOff :: m.filterMap RouteEvent.audioState? := by
    rw [List.filterMap_append, List.filterMap_cons]
    rfl
  -- The loss itself leaves audio off, so the state told of last is told of after it.
  rw [hs, List.getLast?_append, List.getLast?_cons, Option.some_or, Option.getD_some] at h
  cases hm : (m.filterMap RouteEvent.audioState?).getLast? with
  | none => exact absurd (by rw [hm, Option.getD_none]) h
  | some s =>
    rw [hm, Option.getD_some] at h
    obtain ⟨event, he, ha⟩ := List.mem_filterMap.mp (List.mem_of_getLast? hm)
    cases event with
    | audioConnecting address => exact ⟨address, Or.inl he⟩
    | audioConnected address => exact ⟨address, Or.inr he⟩
    | audioDisconnected => exact absurd (Option.some.inj ha).symm h
    | _ => cases ha

/-- Where the second of two losses stands among events that another event follows. -/
theorem second_loss {event : RouteEvent} {l m r : List RouteEvent}
    (h : events ++ [event] = l ++ .audioDisconnected :: m ++ .audioDisconnected :: r) :
    (event = .audioDisconnected ∧ events = l ++ .audioDisconnected :: m) ∨
      ∃ r', events = l ++ .audioDisconnected :: m ++ .audioDisconnected :: r' := by
  rcases List.eq_nil_or_concat r with rfl | ⟨r', e, rfl⟩
  · obtain ⟨he, hd⟩ := List.append_inj' h rfl
    exact Or.inl ⟨List.singleton_inj.mp hd, he⟩
  · rw [List.concat_eq_append, ← List.cons_append, ← List.append_assoc] at h
    exact Or.inr ⟨r', (List.append_inj' h rfl).1⟩

/-- An event that tells of a state, and of the loss of audio only where there was some. -/
theorem snoc (h : EventsTell state events) {event : RouteEvent} {after : RouteState}
    (ha : event.audioState? = some after) (hl : event = .audioDisconnected → state ≠ .audioOff) :
    EventsTell after (events ++ [event]) := by
  refine ⟨?_, fun l m r he => ?_⟩
  · rw [List.filterMap_append, List.filterMap_cons, ha, List.filterMap_nil, List.getLast?_concat,
      Option.getD_some]
  · -- The second loss is the new event, or both losses are among the earlier ones.
    rcases second_loss he with ⟨hd, he⟩ | ⟨r', he⟩
    · have hoff : state ≠ .audioOff := hl hd
      rw [h.last, he] at hoff
      exact back_of_last l m hoff
    · exact h.back l m r' he

theorem snoc_other (h : EventsTell state events) {event : RouteEvent}
    (ha : event.audioState? = none) : EventsTell state (events ++ [event]) := by
  refine ⟨?_, fun l m r he => ?_⟩
  · rw [List.filterMap_append, List.filterMap_cons, ha, List.filterMap_nil, List.append_nil]
    exact h.last
  · rcases second_loss he with ⟨rfl, -⟩ | ⟨r', he⟩
    · cases ha
    · exact h.back l m r' he

end EventsTell

/-- Recording what the listeners for audio are not told leaves alone what they were told. -/
theorem routeEvents_snoc (journal : List JournalEntry) {happening : Happening} (state : RouteState)
    (h : ∀ event, happening ≠ .told event) :
    Bench.routeEvents (journal ++ [⟨happening, state⟩]) = Bench.routeEvents journal := by
  refine List.filterMap_append.trans ?_
  cases happening with
  | told event => exact absurd rfl (h event)
  | _ => exact List.append_nil _

namespace RouteView

def events (v : RouteView) : List RouteEvent := Bench.routeEvents v.journal

theorem events_tracked (v : RouteView)
    (f : TransitionTracker → Option TransitionOutcome × TransitionTracker) :
    (v.tracked f).events = v.events := by
  unfold events
  rcases v.tracked_journal f with hj | ⟨event, hj⟩
  · rw [hj]
  · rw [hj]
    exact routeEvents_snoc v.journal v.state nofun

end RouteView

section
variable {v w : RouteView}

theorem EventsTell.told (h : EventsTell v.state v.events) (event : RouteEvent)
    {after : RouteState} (moment : RouteState) (ha : event.audioState? = some after)
    (hl : event = .audioDisconnected → v.state ≠ .audioOff) :
    EventsTell after ((v.moved moment).recorded (.told event)).events := by
  have happ : ((v.moved moment).recorded (.told event)).events = v.events ++ [event] :=
    List.filterMap_append
  rw [happ]
  exact h.snoc ha hl

theorem EventsTell.other (h : EventsTell v.state v.events) {happening : Happening}
    (hn : ∀ event, happening ≠ .told event) : EventsTell v.state (v.recorded happening).events := by
  have same : (v.recorded happening).events = v.events := routeEvents_snoc v.journal v.state hn
  rwa [same]

theorem EventsTell.quiet (h : EventsTell v.state v.events) (hq : QuietStride v w) :
    EventsTell w.state w.events := by
  cases hq with
  | post => exact h
  | record happening hh =>
    cases happening with
    | told event =>
      have happ : (v.recorded (.told event)).events = v.events ++ [event] := List.filterMap_append
      rw [happ]
      exact h.snoc_other (Option.isNone_iff_eq_none.mp hh)
    | _ => exact h.other nofun

theorem EventsTell.machine (h : EventsTell v.state v.events) (hm : MachineStride v w) :
    EventsTell w.state w.events := by
  cases hm with
  | quiet hq => exact h.quiet hq
  | off hs => exact h.told .audioDisconnected .audioOff rfl fun _ => hs
  | connecting address _ => exact h.told (.audioConnecting address) v.state rfl nofun
  | connected address _ => exact h.told (.audioConnected address) (.connected address) rfl nofun
  | reaffirmed address hs =>
    have told := h.told (.audioConnected address) v.state rfl nofun
    rwa [← hs] at told

theorem EventsTell.tracked (h : EventsTell v.state v.events)
    (f : TransitionTracker → Option TransitionOutcome × TransitionTracker) :
    EventsTell (v.tracked f).state (v.tracked f).events := by
  rwa [RouteView.tracked_state, RouteView.events_tracked]

theorem EventsTell.stride (h : EventsTell v.state v.events) (hs : Stride v w) :
    EventsTell w.state w.events := by
  cases hs with
  | machine hm => exact h.machine hm
  | taken | begun | abandoned => exact h.other nofun
  | tracked f => exact h.tracked f

theorem EventsTell.loop (h : EventsTell v.state v.events) (hs : LoopStride v w) :
    EventsTell w.state w.events := by
  cases hs with
  | stride hs => exact h.stride hs
  | cleared => exact h

end

theorem Via.events_tell {config : RouteConfig} {attached : List Profile} {p : Phone}
    (h : Via LoopStride (.start config attached) p) :
    EventsTell p.machine.state (Bench.routeEvents p.journal) :=
  h.keeps (P := fun v => EventsTell v.state v.events) (fun _ _ stride tell => tell.loop stride)
    EventsTell.initial

/-- In every run of the thread, and of the machine used alone, the audio events determine the
state. -/
theorem audio_events_tell_state (config : RouteConfig) (attached : List Profile) :
    (∀ moves, let p := ((Thread.fresh config attached).run moves).phone
      EventsTell p.machine.state (Bench.routeEvents p.journal)) ∧
    ∀ moves, let p := ((Session.fresh config attached).run moves).phone
      EventsTell p.machine.state (Bench.routeEvents p.journal) := by
  constructor
  · intro moves p
    exact (Thread.via_run config attached moves).events_tell
  · intro moves p
    have strides := Session.via_run config attached moves
    exact (strides.mono fun _ _ hm => .stride (.machine hm)).events_tell

end CallAudio

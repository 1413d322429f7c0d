import CallAudio.Proofs.Surroundings
import CallAudio.Proofs.View

/-! The strides of the route thread: the least changes of its view, each with all that is known when
it is made. Every run is a sequence of strides, so what holds of strides holds of runs. -/
namespace CallAudio

def RouteEvent.audioState? : RouteEvent → Option RouteState
  | .audioConnecting address => some (.connecting address)
  | .audioConnected address => some (.connected address)
  | .audioDisconnected => some .audioOff
  | _ => none

namespace Happening

def audioState? : Happening → Option RouteState
  | .told event => event.audioState?
  | _ => none

def isBegun : Happening → Bool
  | .begun .. => true
  | _ => false

/-- Happenings that say nothing about where audio is or about transitions. -/
def isQuiet : Happening → Bool
  | .told event => event.audioState?.isNone
  | .audioRequested _ | .audioReleased | .performed _ => true
  | _ => false

end Happening

theorem Happening.isBegun_of_isQuiet {happening : Happening} (h : happening.isQuiet = true) :
    happening.isBegun = false := by
  cases happening with
  | begun => cases h
  | _ => rfl

/-- The journal since the last transition was begun. -/
def sinceBegun (journal : List JournalEntry) : List JournalEntry :=
  journal.foldl (fun found e => if e.happening.isBegun then [] else found ++ [e]) []

theorem sinceBegun_snoc (journal : List JournalEntry) (e : JournalEntry) :
    sinceBegun (journal ++ [e]) = if e.happening.isBegun then [] else sinceBegun journal ++ [e] := by
  rw [sinceBegun, List.foldl_append]
  rfl

theorem sinceBegun_snoc_of_not {journal : List JournalEntry} {e : JournalEntry}
    (h : e.happening.isBegun = false) : sinceBegun (journal ++ [e]) = sinceBegun journal ++ [e] := by
  rw [sinceBegun_snoc, h, if_neg Bool.false_ne_true]

/-- A post, or a happening of no concern to listeners for audio and transitions. -/
inductive QuietStride (v : RouteView) : RouteView → Prop
  | post (message : Message) : QuietStride v (v.posted message)
  | record (happening : Happening) (h : happening.isQuiet = true) :
      QuietStride v (v.recorded happening)

/-- The state machine changes its state or confirms it, and tells so. -/
inductive MachineStride (v : RouteView) : RouteView → Prop
  | quiet {w : RouteView} (h : QuietStride v w) : MachineStride v w
  | off (h : v.state ≠ .audioOff) :
      MachineStride v ((v.moved .audioOff).recorded (.told .audioDisconnected))
  | connecting (address : Address) (h : v.state ≠ .connecting address) :
      MachineStride v
        ((v.recorded (.told (.audioConnecting address))).moved (.connecting address))
  | connected (address : Address) (h : v.state ≠ .connected address) :
      MachineStride v
        ((v.moved (.connected address)).recorded (.told (.audioConnected address)))
  | reaffirmed (address : Address) (h : v.state = .connected address) :
      MachineStride v (v.recorded (.told (.audioConnected address)))

/-- Audio on a device was told of since the last transition was begun. -/
def HeardSinceBegun (v : RouteView) (address : Address) : Prop :=
  ⟨.told (.audioConnected address), .connected address⟩ ∈ sinceBegun v.journal

theorem heardSinceBegun_told {v : RouteView} {address : Address}
    (h : v.state = .connected address) :
    HeardSinceBegun (v.recorded (.told (.audioConnected address))) address := by
  have hj : (v.recorded (.told (.audioConnected address))).journal =
      v.journal ++ [⟨.told (.audioConnected address), .connected address⟩] := by
    rw [← h]
    rfl
  unfold HeardSinceBegun
  rw [hj, sinceBegun_snoc_of_not rfl]
  exact List.mem_append_right _ List.mem_cons_self

/-- What the tracker may be made to do. A confirmation was handled as a message, or the thread gives
it itself; it then vouches for audio only on the device that carries it. -/
inductive Licensed (v : RouteView) :
    (TransitionTracker → Option TransitionOutcome × TransitionTracker) → Prop
  | settle : Licensed v TransitionTracker.settle
  | fail (failed : Option Address) : Licensed v (·.fail failed)
  | timeOut (id : TransitionId) : Licensed v (·.timeOut id)
  | received (c : Confirmation) (state : RouteState)
      (h : ⟨.handled (.confirmation c), state⟩ ∈ v.journal) : Licensed v (·.confirm c)
  | own (id : Option TransitionId) (signal : Signal) (address : Address)
      (h : signal = .bluetoothAudioConnected →
        v.state = .connected address ∧ HeardSinceBegun v address) :
      Licensed v (·.confirm ⟨id, signal, some address⟩)

inductive Stride (v : RouteView) : RouteView → Prop
  | machine {w : RouteView} (h : MachineStride v w) : Stride v w
  | taken (message : Message) (rest : List Message) (h : v.inbox = message :: rest) :
      Stride v ({ v with inbox := rest }.recorded (.handled message))
  | begun (origin destination : AudioRoute) (destinationActive : Bool) (ticket : Ticket)
      (earlier : List JournalEntry)
      (h : v.journal = earlier ++
        [⟨.handled (.beginTransition origin destination destinationActive ticket), v.state⟩]) :
      Stride v (v.begun origin destination destinationActive)
  | tracked (f : TransitionTracker → Option TransitionOutcome × TransitionTracker)
      (h : Licensed v f) : Stride v (v.tracked f)
  | abandoned (exclude : Option Address) :
      Stride v ({ v with tracker := v.tracker.abandon.2 }.recorded
        (.announced (.switchToBaseline exclude)))

theorem Stride.quiet {v w : RouteView} (h : QuietStride v w) : Stride v w := .machine (.quiet h)

theorem Stride.journal_prefix {v w : RouteView} (h : Stride v w) : v.journal <+: w.journal := by
  cases h with
  | machine hm =>
    cases hm with
    | quiet hq =>
      cases hq with
      | post => exact List.prefix_rfl
      | record => exact List.prefix_append _ _
    | off | connecting | connected | reaffirmed => exact List.prefix_append _ _
  | taken | begun | abandoned => exact List.prefix_append _ _
  | tracked f =>
    rcases v.tracked_journal f with hj | ⟨event, hj⟩
    · exact ⟨[], (List.append_nil _).trans hj.symm⟩
    · exact ⟨_, hj.symm⟩

/-- A stride, or the end of the thread, with which all queued messages are lost. -/
inductive LoopStride (v : RouteView) : RouteView → Prop
  | stride {w : RouteView} (h : Stride v w) : LoopStride v w
  | cleared : LoopStride v { v with inbox := [] }

theorem LoopStride.journal_prefix {v w : RouteView} (h : LoopStride v w) :
    v.journal <+: w.journal := by
  cases h with
  | stride h => exact h.journal_prefix
  | cleared => exact List.prefix_rfl

/-- One phone leads to another by strides of some kind. -/
def Via (S : RouteView → RouteView → Prop) (p q : Phone) : Prop :=
  Relation.ReflTransGen S p.view q.view

namespace Via

variable {S T : RouteView → RouteView → Prop} {p q r : Phone}

theorem of_view_eq (h : q.view = p.view) : Via S p q := by
  rw [Via, h]

theorem trans (h : Via S p q) (h' : Via S q r) : Via S p r := Relation.ReflTransGen.trans h h'

theorem single (h : S p.view q.view) : Via S p q := Relation.ReflTransGen.single h

theorem mono (hS : ∀ v w, S v w → T v w) (h : Via S p q) : Via T p q :=
  Relation.ReflTransGen.mono hS p.view q.view h

/-- What each stride keeps, the way from one phone to another keeps. -/
theorem keeps {P : RouteView → Prop} (hP : ∀ v w, S v w → P v → P w) (h : Via S p q)
    (hp : P p.view) : P q.view := by
  have hv {v w : RouteView} (h : Relation.ReflTransGen S v w) (hv : P v) : P w := by
    induction h with
    | refl => exact hv
    | tail _ stride ih => exact hP _ _ stride ih
  exact hv h hp

theorem post (hS : ∀ v w, QuietStride v w → S v w) (p : Phone) (message : Message) :
    Via S p (p.post message) := by
  unfold Via
  rw [p.view_post]
  split
  · exact .refl
  · exact .single (hS _ _ (.post message))

theorem postAll (hS : ∀ v w, QuietStride v w → S v w) (p : Phone) (messages : List Message) :
    Via S p (p.postAll messages) := by
  induction messages generalizing p with
  | nil => exact .refl
  | cons m rest ih => exact (post hS p m).trans (ih _)

theorem record (hS : ∀ v w, QuietStride v w → S v w) (p : Phone) {happening : Happening}
    (h : happening.isQuiet = true) : Via S p (p.record happening) :=
  .single (hS _ _ (.record happening h))

theorem outside (hS : ∀ v w, QuietStride v w → S v w) (p : Phone) (o : Outside) :
    Via S p (p.outside o) := by
  have intrusion := p.outside_intrusion o
  generalize p.outside o = q at intrusion ⊢
  cases intrusion with
  | around platform registry dispatcher now messages =>
    have aside : Via S p { p with platform, registry, dispatcher, now } := of_view_eq rfl
    exact aside.trans (postAll hS _ messages)
  | fired t =>
    have fired : Via S p { p with timers := p.timers.cancel t.id } := of_view_eq rfl
    exact fired.trans (post hS _ _)

theorem passage (hS : ∀ v w, QuietStride v w → S v w) : Passage (Via S) :=
  ⟨fun _ => .refl, fun h h' => h.trans h', outside hS⟩

end Via

theorem quietPassage : Passage (Via QuietStride) := Via.passage fun _ _ h => h

theorem machinePassage : Passage (Via MachineStride) := Via.passage fun _ _ h => .quiet h

theorem stridePassage : Passage (Via Stride) := Via.passage fun _ _ h => .quiet h

end CallAudio

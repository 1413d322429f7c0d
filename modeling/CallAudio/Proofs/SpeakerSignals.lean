import CallAudio.Proofs.Arises
import Mathlib.Data.List.Induction

/-! The signals of the loudspeaker. The audio service reports its communication device over and over, and
only a report that differs from the last one as to the loudspeaker makes a signal. So the signals come by
turns, however the reports repeat each other and whatever goes on between them. -/
namespace CallAudio

/-- The first signals of the loudspeaker, by turns from its coming on. -/
def Signal.alternating (n : Nat) : List Signal :=
  (List.range n).map fun i => if i % 2 = 0 then .speakerOn else .speakerOff

theorem Signal.alternating_succ (n : Nat) : alternating (n + 1) =
    alternating n ++ [if n % 2 = 0 then .speakerOn else .speakerOff] := by
  unfold alternating
  rw [List.range_succ, List.map_append]
  rfl

/-- The loudspeaker is on after an odd number of signals. -/
theorem Signal.getLast?_alternating (n : Nat) :
    (alternating n).getLast? = some .speakerOn ↔ n % 2 = 1 := by
  cases n with
  | zero => exact ⟨nofun, nofun⟩
  | succ n =>
    rw [alternating_succ, List.getLast?_concat]
    by_cases even : n % 2 = 0
    · rw [if_pos even]
      exact ⟨fun _ => by omega, fun _ => rfl⟩
    · rw [if_neg even]
      exact ⟨nofun, fun odd => by omega⟩

/-- The signal of the loudspeaker that a message carries, for whichever transition. -/
def Message.speaker? : Message → Option Signal
  | .confirmation ⟨_, ⟨.speakerOn, _⟩⟩ => some .speakerOn
  | .confirmation ⟨_, ⟨.speakerOff, _⟩⟩ => some .speakerOff
  | _ => none

def speakerSignals (messages : List Message) : List Signal := messages.filterMap Message.speaker?

/-- A signal meant for whichever transition is pending. -/
def Signal.untagged (signal : Signal) (address : Option Address) : Message :=
  .confirmation ⟨none, signal, address⟩

/-- What a report of the communication device posts: its change if it has an address, and after that at
most one signal of the loudspeaker. -/
def Reported (device : Option CommunicationDevice) (posted : List Message) : Prop :=
  ∃ edge : Option Signal, (∀ signal ∈ edge, signal = .speakerOn ∨ signal = .speakerOff) ∧
    posted =
      (device.bind CommunicationDevice.address).toList.map
          (fun address => Signal.communicationDeviceChanged.untagged (some address)) ++
        edge.toList.map (·.untagged none)

namespace Dispatcher

/-- The signal that a report makes, by what was reported before. -/
def edge (d : Dispatcher) (device : Option CommunicationDevice) : Option Signal :=
  if device.map CommunicationDevice.kind = some .speaker then
    if d.communicationKind = some .speaker then none else some .speakerOn
  else
    if d.communicationKind = some .speaker then some .speakerOff else none

variable (d : Dispatcher) (device : Option CommunicationDevice)

theorem edge_speaker {signal : Signal} (h : signal ∈ d.edge device) :
    signal = .speakerOn ∨ signal = .speakerOff := by
  unfold edge at h
  split at h <;> split at h
  · cases h
  · exact Or.inl (Option.some.inj h).symm
  · exact Or.inr (Option.some.inj h).symm
  · cases h

theorem confirmations_eq : (d.confirmations device).map Message.confirmation =
    (device.bind CommunicationDevice.address).toList.map
        (fun address => Signal.communicationDeviceChanged.untagged (some address)) ++
      (d.edge device).toList.map (·.untagged none) := by
  unfold confirmations edge
  rw [List.map_append]
  congr 1
  · cases device.bind CommunicationDevice.address <;> rfl
  · by_cases after : device.map CommunicationDevice.kind = some .speaker <;>
      by_cases before : d.communicationKind = some .speaker <;> simp [after, before] <;> rfl

end Dispatcher

namespace Phone

/-- The messages that something outside posts, also when nobody receives them any more. -/
def posts (p : Phone) (o : Outside) : List Message :=
  (({ p with inbox := [], closed := false } : Phone).outside o).inbox

variable (p : Phone) (device : Option CommunicationDevice)

theorem outside_report : p.outside (.event (.communicationDeviceChanged device)) =
    { p with
      dispatcher := { p.dispatcher with communicationKind := device.map CommunicationDevice.kind }
      inbox := if p.closed then p.inbox
        else p.inbox ++ (p.dispatcher.confirmations device).map Message.confirmation } := by
  change p.onCommunicationDeviceChanged device = _
  unfold onCommunicationDeviceChanged
  rw [postAll_eq]

/-- The last report is remembered. -/
theorem kind_report :
    (p.outside (.event (.communicationDeviceChanged device))).dispatcher.communicationKind =
      device.map CommunicationDevice.kind := by
  rw [outside_report]

theorem posts_report : p.posts (.event (.communicationDeviceChanged device)) =
    (p.dispatcher.confirmations device).map Message.confirmation := by
  unfold posts
  rw [outside_report]
  exact List.nil_append _

theorem inbox_report : (p.outside (.event (.communicationDeviceChanged device))).inbox =
    if p.closed then p.inbox
    else p.inbox ++ p.posts (.event (.communicationDeviceChanged device)) := by
  rw [outside_report, posts_report]

theorem reported_report :
    Reported device (p.posts (.event (.communicationDeviceChanged device))) := by
  rw [posts_report, Dispatcher.confirmations_eq]
  exact ⟨_, fun _ => p.dispatcher.edge_speaker device, rfl⟩

theorem speakerSignals_report :
    speakerSignals (p.posts (.event (.communicationDeviceChanged device))) =
      (p.dispatcher.edge device).toList := by
  rw [posts_report, Dispatcher.confirmations_eq]
  -- The change of the device is no signal of the loudspeaker, and nothing else comes before the signal.
  have change (addresses : List Address) : speakerSignals
      (addresses.map fun a => Signal.communicationDeviceChanged.untagged (some a)) = [] := by
    apply List.filterMap_eq_nil_iff.mpr
    intro message mem
    obtain ⟨address, -, rfl⟩ := List.mem_map.mp mem
    rfl
  have signal : speakerSignals ((p.dispatcher.edge device).toList.map (·.untagged none)) =
      (p.dispatcher.edge device).toList := by
    have only (signal : Signal) (h : signal ∈ p.dispatcher.edge device) :
        signal = .speakerOn ∨ signal = .speakerOff := p.dispatcher.edge_speaker device h
    generalize p.dispatcher.edge device = edge at only ⊢
    cases edge with
    | none => rfl
    | some signal => rcases only signal rfl with rfl | rfl <;> rfl
  calc
    _ = _ ++ _ := List.filterMap_append
    _ = [] ++ _ := congrArg₂ (· ++ ·) (change _) signal
    _ = _ := List.nil_append _

theorem dispatcher_post (message : Message) : (p.post message).dispatcher = p.dispatcher := by
  rw [post_eq]

theorem dispatcher_postAll (messages : List Message) : (p.postAll messages).dispatcher = p.dispatcher := by
  rw [postAll_eq]

theorem dispatcher_makeCommunicationDevice (address : Address) :
    (p.makeCommunicationDevice address).2.dispatcher = p.dispatcher := by
  obtain ⟨platform, communication, h⟩ := p.makeCommunicationDevice_eq address
  rw [h]

theorem dispatcher_claim (address : Address) : (p.claim address).dispatcher = p.dispatcher := by
  have made := p.dispatcher_makeCommunicationDevice address
  rcases p.claim_eq address with h | h
  · rwa [h]
  · rw [h]
    exact (dispatcher_post _ _).trans made

end Phone

/-- The thread has no part in what was reported last. -/
theorem Deed.dispatcher {m : Message} {p q : Phone} (h : Deed m p q) : q.dispatcher = p.dispatcher := by
  cases h with
  | posted message => exact p.dispatcher_post message
  | moved target =>
    by_cases same : target = p.machine.state
    · rw [Phone.moveTo_same p same]
    · have departed (target : RouteState) : (p.departed target).dispatcher = p.dispatcher := by
        rw [Phone.departed_eq]
      rw [Phone.moveTo_eq p same]
      cases target with
      | audioOff | connecting => exact departed _
      | connected address => exact (Phone.dispatcher_claim _ address).trans (departed _)
  | retryDropped => rw [Phone.dropRetry_eq]
  | deadlineDropped => rw [Phone.dropDeadline_eq]
  | retryScheduled => rw [Phone.scheduleRetry_eq]
  | begun => exact (congrArg Phone.dispatcher (Phone.startDeadline_eq _ _)).trans rfl
  | tracked f =>
    rcases p.track_eq f with h | ⟨event, h⟩
    · exact (congrArg Phone.dispatcher h).trans rfl
    · exact (congrArg Phone.dispatcher h).trans rfl
  | _ => rfl

/-- Nothing else outside has a part in what was reported last. -/
theorem Phone.outside_keeps_kind (p : Phone) (o : Outside) :
    (∃ device, o = .event (.communicationDeviceChanged device)) ∨
      (p.outside o).dispatcher.communicationKind = p.dispatcher.communicationKind := by
  have event (e : Option PlatformEvent) : (Bench.onEvent e p).2.dispatcher = p.dispatcher := by
    cases e with
    | none => rfl
    | some e => exact p.dispatcher_postAll _
  have kind {r : Phone} (h : r.dispatcher = p.dispatcher) :
      r.dispatcher.communicationKind = p.dispatcher.communicationKind :=
    congrArg Dispatcher.communicationKind h
  cases o with
  | post message => exact Or.inr (kind (p.dispatcher_post message))
  | event act =>
    cases act with
    | communicationDeviceChanged device => exact Or.inl ⟨device, rfl⟩
    | serviceLost profile => exact Or.inr (kind ((p.detach profile).2.dispatcher_postAll _))
    | event | rawConnection | rawSco => exact Or.inr (kind (event _))
    | serviceAttached | setInCall => exact Or.inr rfl
  | registry act =>
    cases act with
    | makeCommunicationDevice address =>
      exact Or.inr (kind (p.dispatcher_makeCommunicationDevice address))
    | _ => exact Or.inr rfl
  | communication | platform | pass => exact Or.inr rfl
  | fire timer =>
    refine Or.inr (kind ?_)
    change (p.fireTimer timer).dispatcher = _
    unfold fireTimer
    split
    · rfl
    · split
      · exact dispatcher_post _ _
      · rfl

namespace Thread

/-- What a move posts if it is a report of the communication device. -/
def reportedBy (t : Thread) : ThreadMove → List Message
  | .outside (.event (.communicationDeviceChanged device)) =>
    t.phone.posts (.event (.communicationDeviceChanged device))
  | _ => []

/-- What the reports among the moves of a run post, in order. -/
def reported (t : Thread) : List ThreadMove → List Message
  | [] => []
  | m :: rest => t.reportedBy m ++ (t.move m).reported rest

variable {t : Thread}

theorem reported_concat (t : Thread) (moves : List ThreadMove) (m : ThreadMove) :
    t.reported (moves ++ [m]) = t.reported moves ++ (t.run moves).reportedBy m := by
  induction moves generalizing t with
  | nil => exact List.append_nil _
  | cons first rest ih =>
    calc
      _ = t.reportedBy first ++ ((t.move first).reported rest ++ _) :=
        congrArg (t.reportedBy first ++ ·) (ih (t.move first))
      _ = _ := (List.append_assoc ..).symm

/-- The signals so far come by turns, and the last report is remembered as far as it matters to them. -/
structure Signalled (t : Thread) (signals : List Signal) : Prop where
  alternating : signals = Signal.alternating signals.length
  parity : signals.length % 2 = 1 ↔ t.phone.dispatcher.communicationKind = some .speaker

/-- A report makes a signal just when it changes the parity of their number. -/
theorem Signalled.report {signals : List Signal} (h : t.Signalled signals)
    (device : Option CommunicationDevice) :
    (t.move (.outside (.event (.communicationDeviceChanged device)))).Signalled
      (signals ++ (t.phone.dispatcher.edge device).toList) := by
  let u := t.move (.outside (.event (.communicationDeviceChanged device)))
  have kept : u.phone.dispatcher.communicationKind = device.map CommunicationDevice.kind :=
    t.phone.kind_report device
  -- One more signal goes on with the turns if it is the next of them.
  have next {signal : Signal} (turn : signal = if signals.length % 2 = 0 then .speakerOn else .speakerOff) :
      signals ++ [signal] = Signal.alternating (signals ++ [signal]).length := by
    rw [List.length_append, List.length_singleton, Signal.alternating_succ, ← h.alternating, turn]
  have parity := h.parity
  -- A report makes a signal only if it differs from the last one as to the loudspeaker.
  unfold Dispatcher.edge
  by_cases after : device.map CommunicationDevice.kind = some .speaker
  · rw [if_pos after]
    by_cases before : t.phone.dispatcher.communicationKind = some .speaker
    · rw [if_pos before, Option.toList_none, List.append_nil]
      exact ⟨h.alternating, iff_of_true (parity.mpr before) (kept.trans after)⟩
    · have even : signals.length % 2 = 0 := by
        have := mt parity.mp before
        omega
      rw [if_neg before, Option.toList_some]
      refine ⟨next (if_pos even).symm, iff_of_true ?_ (kept.trans after)⟩
      rw [List.length_append, List.length_singleton]
      omega
  · have off : ¬u.phone.dispatcher.communicationKind = some .speaker := kept ▸ after
    rw [if_neg after]
    by_cases before : t.phone.dispatcher.communicationKind = some .speaker
    · have odd : signals.length % 2 = 1 := parity.mpr before
      rw [if_pos before, Option.toList_some]
      refine ⟨next (if_neg (by omega)).symm, iff_of_false ?_ off⟩
      rw [List.length_append, List.length_singleton]
      omega
    · rw [if_neg before, Option.toList_none, List.append_nil]
      exact ⟨h.alternating, iff_of_false (mt parity.mp before) off⟩

/-- Any other move leaves alone what was reported last. -/
theorem Doing.reports_or_keeps (h : t.Doing) (m : ThreadMove) :
    (∃ device, m = .outside (.event (.communicationDeviceChanged device))) ∨
      t.reportedBy m = [] ∧
        (t.move m).phone.dispatcher.communicationKind = t.phone.dispatcher.communicationKind := by
  have touched {message : Message} {p q : Phone} (touches : Touches message.concerns p q) :
      q.dispatcher.communicationKind = p.dispatcher.communicationKind :=
    touches.keeps_deeds
      (P := fun q => q.dispatcher.communicationKind = p.dispatcher.communicationKind)
      (fun _ _ deed => (congrArg Dispatcher.communicationKind deed.dispatcher).trans) rfl
  by_cases report : ∃ device, m = .outside (.event (.communicationDeviceChanged device))
  · exact Or.inl report
  have silent : t.reportedBy m = [] := by
    unfold reportedBy
    split
    · exact absurd ⟨_, rfl⟩ report
    · rfl
  refine Or.inr ⟨silent, ?_⟩
  obtain ⟨-, stretch⟩ := h.stretch m
  generalize (t.move m).phone = q at stretch ⊢
  cases stretch with
  | still | stopped => rfl
  | outside o =>
    rcases t.phone.outside_keeps_kind o with ⟨device, rfl⟩ | kept
    · exact absurd ⟨device, rfl⟩ report
    · exact kept
  | taken _ _ touches =>
    -- That the message is taken and noted changes nothing here either.
    exact (touched touches).trans rfl
  | resumed touches => exact touched touches

theorem signalled (config : RouteConfig) (attached : List Profile) (moves : List ThreadMove) :
    ((fresh config attached).run moves).Signalled
      (speakerSignals ((fresh config attached).reported moves)) := by
  induction moves using List.reverseRecOn with
  | nil => exact ⟨rfl, iff_of_false nofun nofun⟩
  | append_singleton moves m ih =>
    let t := (fresh config attached).run moves
    have doing : t.Doing := (doing_fresh config attached).run moves
    have more : speakerSignals ((fresh config attached).reported (moves ++ [m])) =
        speakerSignals ((fresh config attached).reported moves) ++ speakerSignals (t.reportedBy m) := by
      rw [reported_concat]
      exact List.filterMap_append
    rw [run_concat, more]
    rcases doing.reports_or_keeps m with ⟨device, rfl⟩ | ⟨silent, kept⟩
    · have signal := t.phone.speakerSignals_report device
      change Signalled _ (_ ++ speakerSignals (t.phone.posts _))
      rw [signal]
      exact ih.report device
    · have none : speakerSignals (t.reportedBy m) = [] := congrArg speakerSignals silent
      rw [none, List.append_nil]
      exact ⟨ih.alternating, ih.parity.trans (Eq.congr_left kept).symm⟩

/-- Whatever is reported, and whatever goes on in between, the signals of the loudspeaker come by turns from
its coming on. A report posts the change of the communication device just when the device has an address,
before any signal, and then the last signal is that the loudspeaker is on just when that is what was reported.
All this is received unless the thread has ended. -/
theorem speaker_signals_alternate (config : RouteConfig) (attached : List Profile)
    (moves : List ThreadMove) :
    let t := (fresh config attached).run moves
    let signals (moves : List ThreadMove) := speakerSignals ((fresh config attached).reported moves)
    signals moves = Signal.alternating (signals moves).length ∧
      (.stop ∈ moves ∨ t.phone.closed = false) ∧
      ∀ device : Option CommunicationDevice,
        let report : ThreadMove := .outside (.event (.communicationDeviceChanged device))
        Reported device (t.reportedBy report) ∧
          (t.move report).inbox =
            (if t.phone.closed then t.inbox else t.inbox ++ t.reportedBy report) ∧
          ((signals (moves ++ [report])).getLast? = some .speakerOn ↔
            device.map CommunicationDevice.kind = some .speaker) := by
  intro t signals
  refine ⟨(signalled config attached moves).alternating, ?_, fun device => ?_⟩
  · -- Only the end of the thread closes its queue.
    by_cases running : .stop ∉ moves
    · exact Or.inr (Phone.Arises.thread moves running).opened
    · exact Or.inl (not_not.mp running)
  · intro report
    refine ⟨t.phone.reported_report device, t.phone.inbox_report device, ?_⟩
    have told := signalled config attached (moves ++ [report])
    have kind : ((fresh config attached).run (moves ++ [report])).phone.dispatcher.communicationKind =
        device.map CommunicationDevice.kind := by
      rw [run_concat]
      exact t.phone.kind_report device
    calc
      (signals (moves ++ [report])).getLast? = some .speakerOn
      _ ↔ (Signal.alternating (signals (moves ++ [report])).length).getLast? = some .speakerOn := by
        rw [← told.alternating]
      _ ↔ (signals (moves ++ [report])).length % 2 = 1 := Signal.getLast?_alternating _
      _ ↔ _ := told.parity.trans (Eq.congr_left kind)

/-- The loudspeaker comes on, is reported once more, gives way to a headset, and then nothing is left. -/
example :
    let headset : Address := ⟨1, 1, 1, 1, 1, 1⟩
    let report (device : Option CommunicationDevice) : ThreadMove :=
      .outside (.event (.communicationDeviceChanged device))
    (fresh {} []).reported [report (some ⟨1, .speaker, none⟩), report (some ⟨3, .speaker, none⟩),
        report (some ⟨2, .bluetoothSco, some headset⟩), report none] =
      [Signal.speakerOn.untagged none, Signal.communicationDeviceChanged.untagged (some headset),
        Signal.speakerOff.untagged none] := by
  decide

end Thread
end CallAudio

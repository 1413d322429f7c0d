import CallAudio.Proofs.BegunTransition
import CallAudio.Proofs.Meanwhile
import CallAudio.Proofs.RetryBudget
import CallAudio.Proofs.TornDown

/-! Connects that come to the live device. Nothing is done about them: a new one drops the retry, and the
listener is told once more of audio that is on. -/
namespace CallAudio
namespace Phone

variable {p q : Phone} {live : Address} {requested : Option Address} {attempt : Nat}

/-- No service was asked and nothing was posted. Of the machine only the retry may have changed, and only by a
new connect. -/
structure LeftAsItIs (attempt : Nat) (p q : Phone) : Prop where
  platform : q.platform = p.platform
  registry : q.registry = p.registry
  inbox : q.inbox = p.inbox
  operations : audioOperations q.journal = audioOperations p.journal
  announced : Bench.transitionEvents q.journal = Bench.transitionEvents p.journal
  machine : q.machine = { p.machine with retry := q.machine.retry }
  connectionTimers : q.connectionTimers = p.connectionTimers
  dropped : attempt = 0 → q.machine.retry = none ∧ q.armedRetries = []
  kept : attempt ≠ 0 → q.machine.retry = p.machine.retry ∧ q.armedRetries = p.armedRetries

namespace LeftAsItIs

theorem of_requested (h : p.Steady) (attempt : Nat) : LeftAsItIs attempt p (p.requested attempt) := by
  have beside := beside_requested h attempt
  have operations := congrArg Route.operations (p.requested_same attempt).2.2.2
  by_cases new : attempt = 0
  · have form : p.requested attempt = p.dropRetry := if_pos new
    have unheld : (p.requested attempt).machine.retry = none := by rw [form, dropRetry_eq]
    refine ⟨?_, ?_, ?_, operations, ?_, ?_, beside.connectionTimers,
      fun _ => ⟨unheld, armedRetries_eq_nil beside.steady'.sound unheld⟩, fun again => absurd new again⟩
    all_goals rw [form, dropRetry_eq]
  · have form : p.requested attempt = p := if_neg new
    rw [form]
    exact ⟨rfl, rfl, rfl, rfl, rfl, rfl, rfl, fun zero => absurd zero new, fun _ => ⟨rfl, rfl⟩⟩

theorem tell (h : LeftAsItIs attempt p q) (event : RouteEvent) : LeftAsItIs attempt p (q.tell event) := by
  have operations : audioOperations (q.tell event).journal = audioOperations q.journal :=
    audioOperations_snoc_of_not q.journal rfl
  have announced : Bench.transitionEvents (q.tell event).journal = Bench.transitionEvents q.journal :=
    transitionEvents_snoc q.journal _ nofun
  exact { h with operations := operations.trans h.operations, announced := announced.trans h.announced }

end LeftAsItIs

/-- The phone once a connect has come to the live device: all is left as it is, and that audio is on is told
again. -/
structure Reaffirms (live : Address) (attempt : Nat) (p q : Phone) : Prop where
  same : LeftAsItIs attempt p q
  told : q.told = p.told ++ if p.machine.state = .connected live then [.audioConnected live] else []

/-- A connect that comes to the live device is over at once. -/
theorem connect_reaffirms (h : p.Steady) (hl : p.machine.state.liveAddress = some live)
    (target : p.registry.connectTarget requested p.machine.recent = some live) (attempt : Nat) :
    ∃ outcome q, connect requested attempt p = .done outcome q ∧ p.Reaffirms live attempt q := by
  let dropped := p.requested attempt
  have same : LeftAsItIs attempt p dropped := .of_requested h attempt
  obtain ⟨services, state, recent, -⟩ := p.requested_same attempt
  have target' : dropped.registry.connectTarget requested dropped.machine.recent = some live := by
    rw [registry_of_services services, recent]
    exact target
  rw [connect_eq, target']
  have state' : dropped.machine.state = p.machine.state := state
  rcases p.machine.state.live_cases live with connected | connecting | other
  · refine ⟨.reaffirmed live, dropped.tell (.audioConnected live), if_pos (state'.trans connected),
      same.tell _, ?_⟩
    rw [told_tell, told_requested, if_pos connected]
  · have off : p.machine.state ≠ .connected live := by
      rw [connecting]
      nofun
    refine ⟨.alreadyConnecting live, dropped,
      (if_neg (state'.symm ▸ off)).trans (if_pos (state'.trans connecting)), same, ?_⟩
    rw [told_requested, if_neg off, List.append_nil]
  · exact absurd hl other

end Phone

/-- What comes to the live device, by whichever way it is resolved: a connect, or a retry that is due, leaves
all as it is and tells again that audio is on; a retry that is for the live device itself, or beyond the last
attempt, is ignored. -/
theorem live_connect_only_reaffirms {config : RouteConfig} {attached : List Profile} {p : Phone}
    (arises : p.Arises config attached) {live : Address} (hl : p.machine.state.liveAddress = some live) :
    (∀ requested attempt, p.registry.connectTarget requested p.machine.recent = some live →
      ∃ outcome q, Phone.connect requested attempt p = .done outcome q ∧ p.Reaffirms live attempt q) ∧
    ∀ address attempt, p.registry.connectTarget (some address) p.machine.recent = some live →
      (address ≠ live → attempt ≤ maxRetries → ∃ outcome q,
        Phone.retryConnect address attempt p = .done (some outcome) q ∧ p.Reaffirms live attempt q) ∧
      (address = live ∨ maxRetries < attempt → Phone.retryConnect address attempt p = .done none p) := by
  refine ⟨fun requested attempt target => Phone.connect_reaffirms arises.steady hl target attempt, ?_⟩
  intro address attempt target
  rw [Phone.retryConnect_eq, hl]
  constructor
  · intro other left
    obtain ⟨outcome, q, connected, reaffirms⟩ := Phone.connect_reaffirms arises.steady hl target attempt
    refine ⟨outcome, q, ?_, reaffirms⟩
    rw [if_pos ⟨left, fun same => other (Option.some.inj same).symm⟩, connected]
    rfl
  · intro ignored
    refine if_neg fun due => ?_
    rcases ignored with rfl | used
    · exact due.2 rfl
    · exact Nat.not_lt.mpr due.1 used

/-- A speaker that is gone is asked for while audio is on the headset that was used last, by a connect and by
a retry. -/
theorem live_connect_only_reaffirms_of_lost_speaker :
    let headset : Address := ⟨10, 0, 0, 0, 0, 1⟩
    let speaker : Address := ⟨10, 0, 0, 0, 0, 2⟩
    let p := ((Session.fresh {} [.classicHeadset]).run
      [.call (.deviceAdded ⟨headset, .audioSink⟩ .classicHeadset), .call (.audioOn headset)]).phone
    p.Arises {} [.classicHeadset] ∧ p.machine.state = .connected headset ∧
      p.registry.connectTarget (some speaker) p.machine.recent = some headset ∧
      (∃ outcome q, Phone.connect (some speaker) 0 p = .done outcome q ∧ p.Reaffirms headset 0 q) ∧
      (∃ outcome q, Phone.retryConnect speaker 1 p = .done (some outcome) q ∧ p.Reaffirms headset 1 q) ∧
      Phone.retryConnect headset 1 p = .done none p := by
  intro headset speaker p
  have arises : p.Arises {} [.classicHeadset] := .session _
  have connected : p.machine.state = .connected headset := by decide
  have live : p.machine.state.liveAddress = some headset := by decide
  have gone : p.registry.connectTarget (some speaker) p.machine.recent = some headset := by decide
  have here : p.registry.connectTarget (some headset) p.machine.recent = some headset := by decide
  have main := live_connect_only_reaffirms arises live
  exact ⟨arises, connected, gone, main.1 (some speaker) 0 gone,
    (main.2 speaker 1 gone).1 (by decide) (by decide), (main.2 headset 1 here).2 (Or.inl rfl)⟩

/-- The listener is told nothing of a retry for the device that audio is on. -/
theorem live_retry_untold :
    let headset : Address := ⟨10, 0, 0, 0, 0, 1⟩
    let p := ((Session.fresh {} [.classicHeadset]).run
      [.call (.deviceAdded ⟨headset, .audioSink⟩ .classicHeadset), .call (.audioOn headset)]).phone
    let q := ((Phone.retryConnect headset 1 p).finish fun _ => ⟨true, []⟩).phone
    p.machine.state = .connected headset ∧
      p.registry.connectTarget (some headset) p.machine.recent = some headset ∧
      p.told = [.deviceListChanged, .audioConnected headset] ∧ q.told = p.told ∧
      q.told ≠ p.told ++ [.audioConnected headset] := by
  decide

end CallAudio

import CallAudio.Proofs.Transition.History

/-! What the transition that ends the activity of call audio takes down. Between two routes it is all that
the active one held; a route that only becomes inactive itself keeps it. -/
namespace CallAudio

/-- The plan of an active route that is to be inactive. -/
theorem TransitionPlan.between_deactivating (origin destination : AudioRoute) :
    (between true origin destination false).actions = if origin = destination then [] else
      (if origin.isBluetooth then [.disconnectBluetooth] else []) ++ [.clearCommunicationDevice] := by
  by_cases same : origin = destination
  · simp [between, same]
  · simp [between, leaving, same]

namespace TrackerStep

/-- Only a resolved transition ends activity, namely one to an inactive destination. -/
theorem deactivated {t : TransitionTracker} {step : TrackerStep} (active : t.active = true)
    (inactive : (step.run t).2.active = false) :
    ∃ p, t.pending = some p ∧ p.destinationActive = false ∧
      (step.run t).1.outcome? = some (.resolved p.id p.destination) := by
  have he := effect t step
  generalize (step.run t).2 = u at he inactive
  generalize (step.run t).1.outcome? = out at he
  cases he with
  | resolved step p _ hp => exact ⟨p, hp, inactive, rfl⟩
  | begun | kept | trimmed | failed | dropped =>
    exact absurd (active.symm.trans inactive) Bool.false_ne_true.symm

/-- A transition that ends activity was begun while its origin was active, as the last one. The actions then
returned clear the communication device, and disconnect Bluetooth if the origin needs it, exactly if the
transition leaves its origin for another route. One that stays there did nothing. -/
theorem deactivation_releases_iff (steps : List TrackerStep) (step : TrackerStep) (id : TransitionId)
    (destination : AudioRoute) (active : (after {} steps).active = true)
    (resolved : (step.run (after {} steps)).1.outcome? = some (.resolved id destination))
    (inactive : (step.run (after {} steps)).2.active = false) :
    ∃ pre origin actions post, steps = pre ++ .begin origin destination false :: post ∧
      (∀ later ∈ post, later.isBegin = false) ∧
      ((TrackerStep.begin origin destination false).run (after {} pre)).1 = .begun id actions ∧
      (.clearCommunicationDevice ∈ actions ∧ (origin.isBluetooth = true → .disconnectBluetooth ∈ actions) ↔
        origin ≠ destination) ∧
      (origin = destination → actions = []) := by
  obtain ⟨p, hp, hinactive, ended⟩ := deactivated active inactive
  obtain ⟨rfl, rfl⟩ := TransitionOutcome.resolved.inj (Option.some.inj (resolved.symm.trans ended))
  obtain ⟨pre, post, hs, hid, last, kept⟩ := pending_since_begun hp
  rw [hinactive] at hs
  have planned := TransitionPlan.between_deactivating p.origin p.destination
  refine ⟨pre, p.origin, (TransitionPlan.between true p.origin p.destination false).actions, post, hs,
    last, ?_, ?_, fun same => by rw [planned, if_pos same]⟩
  · rw [← hid, ← active, ← kept]
    rfl
  · rw [planned]
    by_cases same : p.origin = p.destination
    · simp [same]
    · simp +contextual [same]

/-- A call that ends on a headset, for the earpiece: the headset is disconnected. -/
theorem deactivation_releases_headset :
    let headset : AudioRoute := ⟨.bluetoothSco, some default⟩
    let steps : List TrackerStep := [.begin ⟨.earpiece, none⟩ headset true,
      .confirm ⟨none, .bluetoothAudioConnected, some default⟩,
      .confirm ⟨none, .communicationDeviceChanged, some default⟩,
      .begin headset ⟨.earpiece, none⟩ false]
    let last : TrackerStep := .confirm ⟨none, .bluetoothAudioDisconnected, some default⟩
    (after {} steps).active = true ∧
      (last.run (after {} steps)).1.outcome? = some (.resolved ⟨1⟩ ⟨.earpiece, none⟩) ∧
      (last.run (after {} steps)).2.active = false ∧
      ∃ pre origin actions post, steps = pre ++ .begin origin ⟨.earpiece, none⟩ false :: post ∧
        (∀ later ∈ post, later.isBegin = false) ∧
        ((TrackerStep.begin origin ⟨.earpiece, none⟩ false).run (after {} pre)).1 = .begun ⟨1⟩ actions ∧
        (.clearCommunicationDevice ∈ actions ∧
          (origin.isBluetooth = true → .disconnectBluetooth ∈ actions) ↔ origin ≠ ⟨.earpiece, none⟩) ∧
        (origin = ⟨.earpiece, none⟩ → actions = []) := by
  intro headset steps last
  have active : (after {} steps).active = true := by decide
  have resolved : (last.run (after {} steps)).1.outcome? =
      some (.resolved ⟨1⟩ ⟨.earpiece, none⟩) := by decide
  have inactive : (last.run (after {} steps)).2.active = false := by decide
  exact ⟨active, resolved, inactive,
    deactivation_releases_iff steps last ⟨1⟩ ⟨.earpiece, none⟩ active resolved inactive⟩

/-- A call that ends where it was: the second transition returns no action and makes call audio inactive, with
the earpiece still set as communication device. -/
theorem deactivation_in_place_releases_nothing :
    let earpiece : AudioRoute := ⟨.earpiece, none⟩
    let steps : List TrackerStep := [.begin earpiece earpiece true, .settle]
    let last : TrackerStep := .begin earpiece earpiece false
    ((TrackerStep.begin earpiece earpiece true).run {}).1 =
        .begun ⟨0⟩ [.setCommunicationDevice .earpiece] ∧
      (after {} steps).active = true ∧
      (last.run (after {} steps)).1 = .begun ⟨1⟩ [] ∧
      (TrackerStep.settle.run (after {} (steps ++ [last]))).1.outcome? =
        some (.resolved ⟨1⟩ earpiece) ∧
      (TrackerStep.settle.run (after {} (steps ++ [last]))).2.active = false := by
  decide

end TrackerStep
end CallAudio

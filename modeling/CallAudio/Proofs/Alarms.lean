import CallAudio.Message
import CallAudio.Timers
import Mathlib.Data.List.Nodup
import Mathlib.Data.List.Perm.Basic
import Mathlib.Logic.Function.Basic
import Mathlib.Logic.Relation

/-! The timers that are held on to. There are three places to hold one, and a timer that is no longer
held is cancelled or has fired, so it posts nothing more. -/
namespace CallAudio

/-- What a timer is held for. -/
inductive Slot
  | retry
  | connection
  | deadline
deriving DecidableEq

/-- The place in which the timer of a message is held. -/
def Message.slot? : Message → Option Slot
  | .retryConnect _ _ => some .retry
  | .connectionTimeout _ => some .connection
  | .transitionTimeout _ => some .deadline
  | _ => none

namespace Timers

variable {μ : Type}

theorem insert_perm (t : Timer μ) (ts : List (Timer μ)) : (insert t ts).Perm (t :: ts) := by
  induction ts with
  | nil => exact .refl _
  | cons x rest ih =>
    unfold insert
    split
    · exact (ih.cons x).trans (.swap t x rest)
    · exact .refl _

theorem mem_insert {t u : Timer μ} {ts : List (Timer μ)} : u ∈ insert t ts ↔ u = t ∨ u ∈ ts := by
  rw [(insert_perm t ts).mem_iff, List.mem_cons]

/-- Cancels the timer that is held, if one is. -/
def release (ts : Timers μ) : Option Nat → Timers μ
  | some id => ts.cancel id
  | none => ts

theorem release_nextId (ts : Timers μ) (held : Option Nat) : (ts.release held).nextId = ts.nextId := by
  cases held <;> rfl

theorem mem_release {ts : Timers μ} {held : Option Nat} {t : Timer μ} :
    t ∈ (ts.release held).armed ↔ t ∈ ts.armed ∧ held ≠ some t.id := by
  cases held with
  | none => simp [release]
  | some id =>
    rw [release, cancel, List.mem_filter, decide_eq_true_eq, ne_comm, ne_eq, ne_eq, Option.some_inj]

theorem armed_release (ts : Timers μ) (held : Option Nat) :
    (ts.release held).armed = ts.armed.filter fun t => held ≠ some t.id := by
  cases held with
  | none => exact (List.filter_eq_self.mpr fun t _ => decide_eq_true nofun).symm
  | some id =>
    refine List.filter_congr fun t _ => decide_eq_decide.mpr ?_
    rw [ne_comm, ne_eq, ne_eq, Option.some_inj]

theorem filter_insert {t : Timer μ} {f : Timer μ → Bool} (h : f t = false) (ts : List (Timer μ)) :
    (insert t ts).filter f = ts.filter f := by
  have unselected : ¬f t = true := Bool.eq_false_iff.mp h
  induction ts with
  | nil => exact List.filter_cons_of_neg unselected
  | cons x rest ih =>
    unfold insert
    split
    · rw [List.filter_cons, List.filter_cons, ih]
    · exact List.filter_cons_of_neg unselected

theorem release_sublist (ts : Timers μ) (held : Option Nat) :
    (ts.release held).armed.Sublist ts.armed := by
  cases held with
  | none => exact .refl _
  | some id => exact List.filter_sublist

end Timers

/-- The armed timers, and which of them are held. -/
structure Alarms where
  timers : Timers Message
  held : Slot → Option Nat

namespace Alarms

def drop (a : Alarms) (s : Slot) : Alarms :=
  ⟨a.timers.release (a.held s), Function.update a.held s none⟩

/-- Arms a timer and holds it in a place, instead of the one held there. -/
def keep (a : Alarms) (s : Slot) (due : Nat) (message : Message) : Alarms :=
  ⟨(a.timers.arm due message).release (a.held s), Function.update a.held s (some a.timers.nextId)⟩

def fired (a : Alarms) (id : Nat) : Alarms := { a with timers := a.timers.cancel id }

/-- Different places hold different timers, numbers are given once, and only held timers are armed. -/
structure Sound (a : Alarms) : Prop where
  apart : ∀ s s' id, a.held s = some id → a.held s' = some id → s = s'
  fresh : ∀ s id, a.held s = some id → id < a.timers.nextId
  owned : ∀ t ∈ a.timers.armed, ∃ s, t.value.slot? = some s ∧ a.held s = some t.id
  nodup : (a.timers.armed.map Timer.id).Nodup

/-- The number was given to a timer, and some places do not hold that timer. -/
def Absent (a : Alarms) (places : Slot → Prop) (id : Nat) : Prop :=
  id < a.timers.nextId ∧ ∀ s, places s → a.held s ≠ some id

/-- The timer held in a place stays as it is. -/
structure Spares (s : Slot) (a b : Alarms) : Prop where
  held : b.held s = a.held s
  armed : ∀ t, a.held s = some t.id → (t ∈ b.timers.armed ↔ t ∈ a.timers.armed)

/-- One of the places is emptied, or a timer is newly held there. -/
inductive Turnover (among : Slot → Prop) (a : Alarms) : Alarms → Prop
  | dropped (s : Slot) (h : among s) : Turnover among a (a.drop s)
  | kept (s : Slot) (due : Nat) (message : Message) (h : among s) (hm : message.slot? = some s) :
      Turnover among a (a.keep s due message)

variable {a b : Alarms} {s s' : Slot}

theorem drop_held_self (a : Alarms) (s : Slot) : (a.drop s).held s = none := by
  change Function.update a.held s none s = none
  rw [Function.update_self]

theorem drop_held_of_ne (a : Alarms) (h : s' ≠ s) : (a.drop s).held s' = a.held s' := by
  change Function.update a.held s none s' = a.held s'
  rw [Function.update_of_ne h]

theorem drop_nextId (a : Alarms) (s : Slot) : (a.drop s).timers.nextId = a.timers.nextId :=
  Timers.release_nextId _ _

theorem keep_held_self (a : Alarms) (s : Slot) (due : Nat) (message : Message) :
    (a.keep s due message).held s = some a.timers.nextId := by
  change Function.update a.held s (some a.timers.nextId) s = some a.timers.nextId
  rw [Function.update_self]

theorem keep_held_of_ne (a : Alarms) (due : Nat) (message : Message) (h : s' ≠ s) :
    (a.keep s due message).held s' = a.held s' := by
  change Function.update a.held s (some a.timers.nextId) s' = a.held s'
  rw [Function.update_of_ne h]

theorem keep_nextId (a : Alarms) (s : Slot) (due : Nat) (message : Message) :
    (a.keep s due message).timers.nextId = a.timers.nextId + 1 := Timers.release_nextId _ _

theorem Sound.lt_of_mem (h : a.Sound) {t : Timer Message} (ht : t ∈ a.timers.armed) :
    t.id < a.timers.nextId := by
  obtain ⟨s, -, hs⟩ := h.owned t ht
  exact h.fresh s t.id hs

/-- A timer that no place holds is not armed. -/
theorem Sound.not_mem_of_absent (h : a.Sound) {id : Nat} (ha : a.Absent (fun _ => True) id)
    {t : Timer Message} (ht : t ∈ a.timers.armed) : t.id ≠ id := by
  rintro rfl
  obtain ⟨s, -, held⟩ := h.owned t ht
  exact ha.2 s trivial held

theorem sound_of_none (timers : Timers Message) (h : timers.armed = []) :
    Alarms.Sound ⟨timers, fun _ => none⟩ := by
  refine ⟨nofun, nofun, fun t ht => ?_, ?_⟩
  · rw [h] at ht
    cases ht
  · rw [h]
    exact List.nodup_nil

theorem Sound.drop (h : a.Sound) (s : Slot) : (a.drop s).Sound := by
  have held {s' : Slot} {id : Nat} (hs : (a.drop s).held s' = some id) :
      a.held s' = some id := by
    by_cases he : s' = s
    · rw [he, drop_held_self] at hs
      cases hs
    · exact (a.drop_held_of_ne he).symm.trans hs
  refine ⟨?_, ?_, ?_, h.nodup.sublist ((a.timers.release_sublist _).map _)⟩
  · intro s₁ s₂ id h₁ h₂
    exact h.apart s₁ s₂ id (held h₁) (held h₂)
  · intro s' id hs
    rw [drop_nextId]
    exact h.fresh s' id (held hs)
  · intro t ht
    obtain ⟨mem, ne⟩ := Timers.mem_release.mp ht
    obtain ⟨s', hv, hs⟩ := h.owned t mem
    have other : s' ≠ s := fun he => ne (he ▸ hs)
    exact ⟨s', hv, (a.drop_held_of_ne other).trans hs⟩

theorem Sound.keep (h : a.Sound) (s : Slot) (due : Nat) {message : Message}
    (hm : message.slot? = some s) : (a.keep s due message).Sound := by
  have self := a.keep_held_self s due message
  have other {s' : Slot} (he : s' ≠ s) := a.keep_held_of_ne due message he
  have perm := Timers.insert_perm ⟨a.timers.nextId, due, message⟩ a.timers.armed
  refine ⟨?_, ?_, ?_, ?_⟩
  · -- The new number is above all that are held, so only one place can hold it.
    intro s₁ s₂ id h₁ h₂
    by_cases e₁ : s₁ = s <;> by_cases e₂ : s₂ = s
    · exact e₁.trans e₂.symm
    · rw [e₁, self] at h₁
      obtain rfl := Option.some.inj h₁
      exact absurd (h.fresh s₂ _ ((other e₂).symm.trans h₂)) (Nat.lt_irrefl _)
    · rw [e₂, self] at h₂
      obtain rfl := Option.some.inj h₂
      exact absurd (h.fresh s₁ _ ((other e₁).symm.trans h₁)) (Nat.lt_irrefl _)
    · exact h.apart s₁ s₂ id ((other e₁).symm.trans h₁) ((other e₂).symm.trans h₂)
  · intro s' id hs
    rw [keep_nextId]
    by_cases e : s' = s
    · rw [e, self] at hs
      obtain rfl := Option.some.inj hs
      exact Nat.lt_succ_self _
    · exact Nat.lt_succ_of_lt (h.fresh s' id ((other e).symm.trans hs))
  · intro t ht
    obtain ⟨mem, ne⟩ := Timers.mem_release.mp ht
    rcases Timers.mem_insert.mp mem with rfl | mem
    · exact ⟨s, hm, self⟩
    · obtain ⟨s', hv, hs⟩ := h.owned t mem
      exact ⟨s', hv, (other fun e => ne (e ▸ hs)).trans hs⟩
  · have new : a.timers.nextId ∉ a.timers.armed.map Timer.id := by
      intro hn
      obtain ⟨t, ht, he⟩ := List.mem_map.mp hn
      exact absurd (h.lt_of_mem ht) (he ▸ Nat.lt_irrefl _)
    have ids : ((a.timers.arm due message).armed.map Timer.id).Nodup :=
      (perm.map Timer.id).nodup_iff.mpr (List.nodup_cons.mpr ⟨new, h.nodup⟩)
    exact ids.sublist ((Timers.release_sublist _ _).map _)

/-- A timer that is newly held is armed. -/
theorem Sound.mem_keep (h : a.Sound) (s : Slot) (due : Nat) (message : Message) :
    ⟨a.timers.nextId, due, message⟩ ∈ (a.keep s due message).timers.armed := by
  refine Timers.mem_release.mpr ⟨Timers.mem_insert.mpr (Or.inl rfl), fun held => ?_⟩
  exact absurd (h.fresh s _ held) (Nat.lt_irrefl _)

/-- The armed timers of the messages that a place is for. -/
def armedFor (a : Alarms) (s : Slot) : List (Timer Message) :=
  a.timers.armed.filter fun t => t.value.slot? = some s

theorem Sound.held_of_armedFor (h : a.Sound) {t : Timer Message} (mem : t ∈ a.armedFor s) :
    a.held s = some t.id := by
  obtain ⟨mem, value⟩ := List.mem_filter.mp mem
  obtain ⟨s', hs, owned⟩ := h.owned t mem
  obtain rfl := Option.some.inj (hs.symm.trans (of_decide_eq_true value))
  exact owned

/-- Where none is held none is armed. -/
theorem Sound.armedFor_eq_nil (h : a.Sound) (none : a.held s = none) : a.armedFor s = [] := by
  refine List.eq_nil_iff_forall_not_mem.mpr fun t mem => ?_
  exact absurd (none.symm.trans (h.held_of_armedFor mem)) nofun

/-- A place holds one timer, so no two timers of its messages are armed. -/
theorem Sound.one_armed (h : a.Sound) (s : Slot) : (a.armedFor s).length ≤ 1 := by
  have held {t : Timer Message} (mem : t ∈ a.armedFor s) : a.held s = some t.id := h.held_of_armedFor mem
  have nodup : ((a.armedFor s).map Timer.id).Nodup := h.nodup.sublist (List.filter_sublist.map _)
  cases armed : a.armedFor s with
  | nil => exact Nat.zero_le 1
  | cons t others =>
    cases others with
    | nil => exact Nat.le_refl 1
    | cons u rest =>
      rw [armed] at held nodup
      have same : t.id = u.id := Option.some.inj
        ((held List.mem_cons_self).symm.trans (held (List.mem_cons_of_mem t List.mem_cons_self)))
      rw [List.map_cons, List.map_cons, List.nodup_cons] at nodup
      exact absurd (same ▸ List.mem_cons_self) nodup.1

/-- The timer that is armed for a place is the one held there. -/
theorem Sound.armed_cases (h : a.Sound) (s : Slot) :
    a.armedFor s = [] ∨ ∃ t ∈ a.timers.armed, a.held s = some t.id ∧ a.armedFor s = [t] := by
  have one := h.one_armed s
  cases own : a.armedFor s with
  | nil => exact Or.inl rfl
  | cons t others =>
    rw [own] at one
    obtain rfl : others = [] := List.length_eq_zero_iff.mp (Nat.le_zero.mp (Nat.le_of_succ_le_succ one))
    have listed : t ∈ a.armedFor s := own ▸ List.mem_cons_self
    exact Or.inr ⟨t, List.mem_of_mem_filter listed, h.held_of_armedFor listed, rfl⟩

/-- Once a place is emptied no timer is armed for it. -/
theorem Sound.armedFor_drop_self (h : a.Sound) (s : Slot) : (a.drop s).armedFor s = [] :=
  (h.drop s).armedFor_eq_nil (a.drop_held_self s)

theorem Sound.armedFor_drop_of_ne (h : a.Sound) (ne : s' ≠ s) : (a.drop s).armedFor s' = a.armedFor s' := by
  change (a.timers.release (a.held s)).armed.filter _ = a.timers.armed.filter _
  rw [Timers.armed_release, List.filter_filter]
  refine List.filter_congr fun t mem => ?_
  rw [Bool.and_eq_left_iff_imp]
  intro value
  have held : a.held s' = some t.id := h.held_of_armedFor (List.mem_filter.mpr ⟨mem, value⟩)
  exact decide_eq_true fun other => ne (h.apart s' s t.id held other)

/-- The timer that is newly held is the only one armed for its place. -/
theorem Sound.armedFor_keep_self (h : a.Sound) (due : Nat) {message : Message}
    (hm : message.slot? = some s) :
    (a.keep s due message).armedFor s = [⟨a.timers.nextId, due, message⟩] := by
  have listed : ⟨a.timers.nextId, due, message⟩ ∈ (a.keep s due message).armedFor s :=
    List.mem_filter.mpr ⟨h.mem_keep s due message, decide_eq_true hm⟩
  rcases (h.keep s due hm).armed_cases s with none | ⟨t, -, -, one⟩
  · rw [none] at listed
    cases listed
  · rw [one] at listed ⊢
    rw [List.mem_singleton.mp listed]

theorem Sound.armedFor_keep_of_ne (h : a.Sound) (due : Nat) {message : Message}
    (hm : message.slot? = some s) (ne : s' ≠ s) :
    (a.keep s due message).armedFor s' = a.armedFor s' := by
  have unselected : decide (message.slot? = some s') = false :=
    decide_eq_false fun same => ne (Option.some.inj (same.symm.trans hm))
  rw [← h.armedFor_drop_of_ne ne]
  change ((a.timers.arm due message).release (a.held s)).armed.filter _ =
    (a.timers.release (a.held s)).armed.filter _
  rw [Timers.armed_release, Timers.armed_release, List.filter_filter, List.filter_filter]
  exact Timers.filter_insert (by simp [unselected]) a.timers.armed

theorem Sound.fired (h : a.Sound) (id : Nat) : (a.fired id).Sound :=
  ⟨h.apart, h.fresh, fun t ht => h.owned t (List.mem_of_mem_filter ht),
    h.nodup.sublist (List.filter_sublist.map _)⟩

variable {among : Slot → Prop}

theorem Sound.turnover (h : a.Sound) (ht : Turnover among a b) : b.Sound := by
  cases ht with
  | dropped s => exact h.drop s
  | kept s due message _ hm => exact h.keep s due hm

/-- A place that does not hold a timer does not come to hold it, as newly held ones are new. -/
theorem Turnover.absent (ht : Turnover among a b) {places : Slot → Prop} {id : Nat}
    (h : a.Absent places id) : b.Absent places id := by
  obtain ⟨lt, unheld⟩ := h
  cases ht with
  | dropped s =>
    refine ⟨by rwa [drop_nextId], fun s' hs => ?_⟩
    by_cases e : s' = s
    · rw [e, drop_held_self]
      exact nofun
    · rw [drop_held_of_ne a e]
      exact unheld s' hs
  | kept s due message =>
    refine ⟨?_, fun s' hs => ?_⟩
    · rw [keep_nextId]
      exact Nat.lt_succ_of_lt lt
    · by_cases e : s' = s
      · rw [e, keep_held_self]
        exact fun he => absurd lt (Option.some.inj he ▸ Nat.lt_irrefl _)
      · rw [keep_held_of_ne a due message e]
        exact unheld s' hs

theorem Turnover.spares (ht : Turnover among a b) (h : a.Sound) {s : Slot} (hs : ¬among s) :
    Spares s a b := by
  -- The place that is turned over holds another timer than `s` does.
  have ne {s' : Slot} (hm : among s') : s ≠ s' := fun e => hs (e ▸ hm)
  have unheld {s' : Slot} (hm : among s') {t : Timer Message} (held : a.held s = some t.id) :
      a.held s' ≠ some t.id := fun held' => ne hm (h.apart s s' t.id held held')
  cases ht with
  | dropped s' hm =>
    refine ⟨a.drop_held_of_ne (ne hm), fun t held => ?_⟩
    exact Timers.mem_release.trans (and_iff_left (unheld hm held))
  | kept s' due message hm =>
    refine ⟨a.keep_held_of_ne due message (ne hm), fun t held => ?_⟩
    have old : t ≠ ⟨a.timers.nextId, due, message⟩ := by
      rintro rfl
      exact absurd (h.fresh s _ held) (Nat.lt_irrefl _)
    rw [keep, Timers.mem_release, and_iff_left (unheld hm held)]
    exact Timers.mem_insert.trans (or_iff_right old)

/-- Places are turned over one after the other. -/
def Turnovers (among : Slot → Prop) : Alarms → Alarms → Prop :=
  Relation.ReflTransGen (Turnover among)

theorem Turnovers.of_eq (h : b = a) : Turnovers among a b := by
  subst h
  exact .refl

theorem Turnovers.sound (ht : Turnovers among a b) (h : a.Sound) : b.Sound := by
  induction ht with
  | refl => exact h
  | tail _ step ih => exact ih.turnover step

theorem Turnovers.absent (ht : Turnovers among a b) {places : Slot → Prop} {id : Nat}
    (h : a.Absent places id) : b.Absent places id := by
  induction ht with
  | refl => exact h
  | tail _ step ih => exact step.absent ih

theorem Turnovers.spares (ht : Turnovers among a b) (h : a.Sound) {s : Slot} (hs : ¬among s) :
    Spares s a b := by
  induction ht with
  | refl => exact ⟨rfl, fun _ _ => .rfl⟩
  | tail first step ih =>
    have next := step.spares (Turnovers.sound first h) hs
    refine ⟨next.held.trans ih.held, fun t held => ?_⟩
    exact (next.armed t (ih.held.trans held)).trans (ih.armed t held)

end Alarms

end CallAudio

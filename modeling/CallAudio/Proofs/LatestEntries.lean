import CallAudio.EventLog
import Mathlib.Data.List.DropRight

/-! What a bounded log keeps. The oldest entry goes only when the log is exactly as long as its capacity, so
the bound holds because no log ever grows past it, and because a capacity of zero is raised to one. Entries
are of any kind, with time stamps or without. -/
namespace CallAudio.EventLog

variable {α : Type}

theorem length_rtake (entries : List α) (limit : Nat) :
    (entries.rtake limit).length = min entries.length limit := by
  unfold List.rtake
  rw [List.length_drop]
  omega

/-- What makes room for one more among the last entries leaves one fewer of them. -/
theorem makeRoom_rtake (entries : List α) (others : Nat) :
    (if (entries.rtake (others + 1)).length = others + 1 then (entries.rtake (others + 1)).tail
      else entries.rtake (others + 1)) = entries.rtake others := by
  rw [length_rtake]
  unfold List.rtake
  rcases Nat.lt_or_ge others entries.length with full | free
  · have next : entries.length - (others + 1) + 1 = entries.length - others := by omega
    rw [if_pos (Nat.min_eq_right full), List.tail_drop, next]
  · have whole : entries.length - (others + 1) = entries.length - others := by omega
    rw [if_neg (by omega), whole]

/-- One more entry in a log of the last ones makes it the log of the last ones with that entry. -/
theorem push_rtake {limit : Nat} (room : 0 < limit) (entries : List α) (entry : α) :
    push ⟨limit, entries.rtake limit⟩ entry = ⟨limit, (entries ++ [entry]).rtake limit⟩ := by
  obtain ⟨others, rfl⟩ : ∃ others, limit = others + 1 := Nat.exists_eq_add_one.mpr room
  unfold push
  dsimp only
  rw [makeRoom_rtake, List.rtake_concat_succ]

theorem foldl_push (capacity : Nat) (entries : List α) :
    entries.foldl push (ofCapacity capacity) = ⟨max capacity 1, entries.rtake (max capacity 1)⟩ := by
  have room : 0 < max capacity 1 := Nat.lt_of_lt_of_le Nat.one_pos (Nat.le_max_right ..)
  -- On the entries from their end: the log before the latest entry is the hypothesis.
  induction entries using List.reverseRecOn with
  | nil => rw [List.rtake_nil]; rfl
  | append_singleton earlier entry ih => rw [List.foldl_concat, ih, push_rtake room]

/-- After any entries the log has the last of them, in the order they came in: as many as its capacity, or one
if that is zero, or all of them while there are fewer. So it never has more than its capacity, or one. -/
theorem keeps_latest (capacity : Nat) (entries : List α) :
    let log : EventLog α := entries.foldl push (ofCapacity capacity)
    log.entries = entries.rtake (max capacity 1) ∧
      log.size = min entries.length (max capacity 1) ∧ log.size ≤ max capacity 1 := by
  intro log
  have kept : log = ⟨max capacity 1, entries.rtake (max capacity 1)⟩ := foldl_push capacity entries
  have size : log.size = min entries.length (max capacity 1) := by
    rw [kept]
    exact length_rtake ..
  exact ⟨congrArg EventLog.entries kept, size, size ▸ Nat.min_le_right ..⟩

/-- A log of capacity zero has its latest entry. -/
example : (["first", "second"].foldl push (ofCapacity 0)).entries = ["second"] := rfl

end CallAudio.EventLog

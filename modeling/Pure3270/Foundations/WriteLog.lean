import Mathlib.Data.List.Basic

/-!
# Logs of writes

A log lists what has been written under which key, the oldest write first.  A
value stands in a log when it is never overwritten by another one for good.
-/

namespace Foundations

variable {κ ν : Type} [DecidableEq κ] {key : κ} {value : ν} {log : List (κ × ν)}

/-- What was written last under a key. -/
def lastWrite (key : κ) : List (κ × ν) → Option ν
  | [] => none
  | (other, value) :: log =>
      (lastWrite key log).or (if other = key then some value else none)

theorem lastWrite_append (key : κ) (first second : List (κ × ν)) :
    lastWrite key (first ++ second) =
      (lastWrite key second).or (lastWrite key first) := by
  induction first with
  | nil => simp [lastWrite]
  | cons write first ih =>
      obtain ⟨other, value⟩ := write
      rw [List.cons_append, lastWrite, lastWrite, ih, Option.or_assoc]

theorem mem_of_lastWrite (last : lastWrite key log = some value) :
    (key, value) ∈ log := by
  induction log with
  | nil => cases last
  | cons write log ih =>
      obtain ⟨other, earlier⟩ := write
      rw [lastWrite] at last
      rcases Option.or_eq_some_iff.mp last with later | ⟨_, here⟩
      · exact List.mem_cons_of_mem _ (ih later)
      · split at here
        · rename_i same
          cases here
          rw [same]
          exact List.mem_cons_self
        · cases here

theorem exists_lastWrite (written : ∃ value, (key, value) ∈ log) :
    ∃ last before after, lastWrite key log = some last ∧
      log = before ++ (key, last) :: after ∧ ∀ other, (key, other) ∉ after := by
  induction log with
  | nil =>
      obtain ⟨value, member⟩ := written
      cases member
  | cons write log ih =>
      obtain ⟨other, earlier⟩ := write
      by_cases later : ∃ value, (key, value) ∈ log
      · obtain ⟨last, before, after, found, split, nothing⟩ := ih later
        exact ⟨last, (other, earlier) :: before, after,
          by rw [lastWrite, found, Option.some_or], by rw [split]; rfl, nothing⟩
      · have nothing : ∀ value, (key, value) ∉ log := fun value member =>
          later ⟨value, member⟩
        obtain ⟨value, member⟩ := written
        have here : (key, value) = (other, earlier) :=
          (List.mem_cons.mp member).resolve_right (nothing value)
        cases here
        have unwritten : lastWrite key log = none := by
          cases found : lastWrite key log with
          | none => rfl
          | some last => exact absurd (mem_of_lastWrite found) (nothing last)
        exact ⟨earlier, [], log, by rw [lastWrite, unwritten]; simp, rfl, nothing⟩

/-- A value stands: another value written over it is followed by the value
again. -/
def Stands (value : ν) (log : List (κ × ν)) : Prop :=
  ∀ before key other after, log = before ++ (key, other) :: after →
    other ≠ value → (key, value) ∈ before → (key, value) ∈ after

theorem stands_iff : Stands value log ↔
    ∀ key, (key, value) ∈ log → lastWrite key log = some value := by
  constructor
  · intro stands key written
    obtain ⟨last, before, after, found, split, nothing⟩ := exists_lastWrite ⟨value, written⟩
    by_cases same : last = value
    · rw [found, same]
    · rw [split, List.mem_append, List.mem_cons] at written
      rcases written with early | here | late
      · exact absurd (stands before key last after split same early) (nothing value)
      · exact absurd (Prod.mk.inj here).2.symm same
      · exact absurd late (nothing value)
  · intro last before key other after split different early
    have found := last key (by rw [split]; simp [early])
    rw [split, ← List.singleton_append, ← List.append_assoc, lastWrite_append] at found
    rcases Option.or_eq_some_iff.mp found with later | ⟨_, here⟩
    · exact mem_of_lastWrite later
    · rw [lastWrite_append] at here
      simp only [lastWrite, if_true, Option.none_or, Option.some_or] at here
      exact absurd (Option.some_inj.mp here) different

end Foundations

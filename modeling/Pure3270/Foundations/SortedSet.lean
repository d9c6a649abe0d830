import Mathlib.Data.List.Sort

/-!
# Finite sets as increasing lists

A finite set kept in increasing order enumerates its members without a
separate sorting step.  A nonempty set of naturals below a bound cuts the
interval from its least member to the bound into consecutive ranges; `ranges`
lists them, and the lemmas below say that each range is a nonempty part of the
interval.
-/

namespace Foundations

/-- A finite set of naturals, listed in increasing order. -/
structure SortedSet where
  toList : List Nat
  increasing : toList.Pairwise (· < ·)
  deriving DecidableEq

namespace SortedSet

def empty : SortedSet := ⟨[], List.Pairwise.nil⟩

instance : Membership Nat SortedSet := ⟨fun set value => value ∈ set.toList⟩

instance (value : Nat) (set : SortedSet) : Decidable (value ∈ set) :=
  inferInstanceAs (Decidable (value ∈ set.toList))

theorem mem_iff {value : Nat} {set : SortedSet} :
    value ∈ set ↔ value ∈ set.toList := Iff.rfl

@[simp] theorem not_mem_empty (value : Nat) : ¬ value ∈ empty := by
  simp [mem_iff, empty]

theorem eq_empty_iff {set : SortedSet} : set = empty ↔ set.toList = [] := by
  cases set
  simp [empty]

private theorem increasing_orderedInsert {value : Nat} {values : List Nat}
    (increasing : values.Pairwise (· < ·)) (fresh : value ∉ values) :
    (values.orderedInsert (· ≤ ·) value).Pairwise (· < ·) := by
  have ordered : (values.orderedInsert (· ≤ ·) value).Pairwise (· ≤ ·) :=
    List.Pairwise.orderedInsert value values
      (increasing.imp (fun smaller => Nat.le_of_lt smaller))
  have distinct : (values.orderedInsert (· ≤ ·) value).Nodup :=
    (List.perm_orderedInsert (· ≤ ·) value values).nodup_iff.mpr
      (List.nodup_cons.mpr ⟨fresh, increasing.imp (fun smaller => Nat.ne_of_lt smaller)⟩)
  exact ordered.imp₂ (fun _ _ below different => lt_of_le_of_ne below different) distinct

/-- Add a member. -/
def insert (value : Nat) (set : SortedSet) : SortedSet :=
  if present : value ∈ set.toList then set
  else ⟨set.toList.orderedInsert (· ≤ ·) value,
    increasing_orderedInsert set.increasing present⟩

@[simp] theorem mem_insert {value other : Nat} {set : SortedSet} :
    value ∈ set.insert other ↔ value = other ∨ value ∈ set := by
  unfold insert
  split
  · constructor
    · exact Or.inr
    · rintro (rfl | member)
      · assumption
      · exact member
  · simp [mem_iff, List.mem_orderedInsert]

theorem insert_of_mem {value : Nat} {set : SortedSet} (member : value ∈ set) :
    set.insert value = set := by
  unfold insert
  exact dif_pos member

/-- Sets with the same members are equal. -/
theorem ext_mem {first second : SortedSet}
    (same : ∀ value, value ∈ first ↔ value ∈ second) : first = second := by
  have distinct : ∀ set : SortedSet, set.toList.Nodup :=
    fun set => set.increasing.imp fun smaller => Nat.ne_of_lt smaller
  have permuted : first.toList.Perm second.toList :=
    (List.perm_ext_iff_of_nodup (distinct first) (distinct second)).mpr same
  have equal := permuted.eq_of_pairwise
    (fun _ _ _ _ below above => absurd above (Nat.lt_asymm below))
    first.increasing second.increasing
  cases first
  cases second
  cases equal
  rfl

end SortedSet

/-- Consecutive ranges from each start to the position before the next one,
the last range ending at `last`. -/
def ranges (last : Nat) : List Nat → List (Nat × Nat)
  | [] => []
  | [start] => [(start, last)]
  | start :: next :: rest => (start, next - 1) :: ranges last (next :: rest)

theorem map_fst_ranges (last : Nat) (starts : List Nat) :
    (ranges last starts).map Prod.fst = starts := by
  induction starts with
  | nil => rfl
  | cons start rest ih =>
      cases rest with
      | nil => rfl
      | cons next rest => simp [ranges, ih]

/-- Every range ends before the later ones start. -/
theorem ranges_apart {last : Nat} {starts : List Nat}
    (increasing : starts.Pairwise (· < ·)) :
    (ranges last starts).Pairwise fun left right => left.2 < right.1 := by
  induction starts with
  | nil => exact List.Pairwise.nil
  | cons start rest ih =>
      cases rest with
      | nil => exact List.pairwise_singleton _ _
      | cons next rest =>
          have later := (List.pairwise_cons.mp increasing).2
          refine List.pairwise_cons.mpr ⟨fun range member => ?_, ih later⟩
          have here := (List.pairwise_cons.mp increasing).1 next (by simp)
          have least : next ≤ range.1 := by
            have among : range.1 ∈ next :: rest := by
              rw [← map_fst_ranges last (next :: rest)]
              exact List.mem_map_of_mem member
            rcases List.mem_cons.mp among with same | behind
            · exact Nat.le_of_eq same.symm
            · exact Nat.le_of_lt ((List.pairwise_cons.mp later).1 range.1 behind)
          show next - 1 < range.1
          omega

theorem ranges_bounded {last : Nat} {starts : List Nat}
    (increasing : starts.Pairwise (· < ·))
    (bounded : ∀ start ∈ starts, start ≤ last)
    {range : Nat × Nat} (member : range ∈ ranges last starts) :
    range.1 ≤ range.2 ∧ range.2 ≤ last := by
  induction starts with
  | nil => simp [ranges] at member
  | cons start rest ih =>
      cases rest with
      | nil =>
          obtain rfl : range = (start, last) := by simpa [ranges] using member
          exact ⟨bounded start (by simp), Nat.le_refl last⟩
      | cons next rest =>
          have following := (List.pairwise_cons.mp increasing).1 next (by simp)
          have within := bounded next (by simp)
          rcases List.mem_cons.mp member with rfl | later
          · exact ⟨by simp only; omega, by simp only; omega⟩
          · exact ih (List.pairwise_cons.mp increasing).2
              (fun value here => bounded value (List.mem_cons_of_mem _ here)) later

end Foundations

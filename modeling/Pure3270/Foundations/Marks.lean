import Pure3270.Foundations.SortedSet

/-!
# Marks on a line

Some places of a line bear a mark, and a mark governs the places from its own up to the next
one.  Where the marked places are listed in order, the ranges between them say the same.
-/

namespace Foundations

variable {α : Type}

/-- The last mark up to a place. -/
def governing (marks : Nat → Option α) : Nat → Option α
  | 0 => marks 0
  | place + 1 => (marks (place + 1)).or (governing marks place)

/-- The places below a bound whose marks pass a test. -/
def markedPlaces (bound : Nat) (test : α → Bool) (marks : Nat → Option α) : List Nat :=
  (List.range bound).filter fun place => (marks place).any test

variable {marks : Nat → Option α} {place start last bound : Nat} {starts : List Nat}

theorem governing_of_mark {mark : α} (marked : marks place = some mark) :
    governing marks place = some mark := by
  cases place with
  | zero => exact marked
  | succ place => simp [governing, marked]

/-- Places without a mark of their own are governed by what is before them. -/
theorem governing_behind (before : start ≤ place)
    (unmarked : ∀ between, start < between → between ≤ place → marks between = none) :
    governing marks place = governing marks start := by
  induction place with
  | zero => simp [Nat.le_zero.mp before]
  | succ place ih =>
      rcases Nat.lt_or_eq_of_le before with below | same
      · have none := unmarked (place + 1) below (Nat.le_refl _)
        rw [governing, none, Option.none_or]
        apply ih (Nat.le_of_lt_succ below)
        intro between after within
        exact unmarked between after (Nat.le_succ_of_le within)
      · simp [same]

theorem governing_eq_none (unmarked : ∀ before ≤ place, marks before = none) :
    governing marks place = none := by
  induction place with
  | zero => exact unmarked 0 (Nat.le_refl 0)
  | succ place ih =>
      rw [governing, unmarked (place + 1) (Nat.le_refl _), Option.none_or]
      exact ih fun before within => unmarked before (Nat.le_succ_of_le within)

theorem mem_of_mem_ranges {range : Nat × Nat} (member : range ∈ ranges last starts) :
    range.1 ∈ starts := by
  rw [← map_fst_ranges last starts]
  exact List.mem_map_of_mem member

section Increasing

variable (increasing : starts.Pairwise (· < ·)) (bounded : ∀ start ∈ starts, start ≤ last)

include increasing bounded in
theorem start_outside_range {range : Nat × Nat} (member : range ∈ ranges last starts)
    (marked : start ∈ starts) : start ≤ range.1 ∨ range.2 < start := by
  have apart := List.pairwise_iff_getElem.mp (@ranges_apart last starts increasing)
  rw [← map_fst_ranges last starts] at marked
  obtain ⟨own, ownMember, rfl⟩ := List.mem_map.mp marked
  obtain ⟨ordered, -⟩ := ranges_bounded increasing bounded ownMember
  obtain ⟨index, inside, rfl⟩ := List.getElem_of_mem ownMember
  obtain ⟨other, otherInside, rfl⟩ := List.getElem_of_mem member
  rcases Nat.lt_trichotomy index other with before | rfl | behind
  · have below := apart index other inside otherInside before
    exact .inl (by omega)
  · exact .inl (Nat.le_refl _)
  · exact .inr (apart other index otherInside inside behind)

include bounded in
/-- The ranges leave nothing out behind a start. -/
theorem exists_range (marked : start ∈ starts) (before : start ≤ place)
    (inside : place ≤ last) :
    ∃ range ∈ ranges last starts, range.1 ≤ place ∧ place ≤ range.2 := by
  induction starts generalizing start with
  | nil => cases marked
  | cons first rest ih =>
      cases rest with
      | nil =>
          obtain rfl := List.mem_singleton.mp marked
          exact ⟨(start, last), List.mem_singleton_self _, before, inside⟩
      | cons next rest =>
          have later : ∀ start ∈ next :: rest, start ≤ last :=
            fun start member => bounded start (List.mem_cons_of_mem _ member)
          by_cases reached : next ≤ place
          · obtain ⟨range, member, within⟩ := ih later List.mem_cons_self reached
            exact ⟨range, List.mem_cons_of_mem _ member, within⟩
          · rcases List.mem_cons.mp marked with rfl | behind
            · exact ⟨(start, next - 1), List.mem_cons_self, before, by simp only; omega⟩
            · obtain ⟨range, member, within⟩ := ih later behind before
              exact ⟨range, List.mem_cons_of_mem _ member, within⟩

include increasing bounded in
theorem governing_eq_find? (agree : ∀ place ≤ last, (marks place).isSome ↔ place ∈ starts)
    (inside : place ≤ last) :
    governing marks place =
      ((ranges last starts).find? fun range => range.1 ≤ place && place ≤ range.2).bind
        fun range => marks range.1 := by
  have unmarked : ∀ other ≤ last, other ∉ starts → marks other = none := by
    intro other within absent
    rw [← Option.not_isSome_iff_eq_none]
    exact mt (agree other within).mp absent
  cases found : (ranges last starts).find? fun range =>
      range.1 ≤ place && place ≤ range.2 with
  | none =>
      apply governing_eq_none
      intro before within
      apply unmarked before (Nat.le_trans within inside)
      intro marked
      obtain ⟨range, member, contains⟩ := exists_range bounded marked within inside
      have missed := List.find?_eq_none.mp found range member
      simp [contains] at missed
  | some range =>
      have member := List.mem_of_find?_eq_some found
      have contains := List.find?_some found
      simp only [Bool.and_eq_true, decide_eq_true_eq] at contains
      have marked := mem_of_mem_ranges member
      obtain ⟨mark, here⟩ := Option.isSome_iff_exists.mp
        ((agree range.1 (bounded range.1 marked)).mpr marked)
      rw [Option.bind_some, governing_behind contains.1]
      · rw [here]
        exact governing_of_mark here
      · intro between after within
        apply unmarked between (Nat.le_trans within inside)
        intro other
        rcases start_outside_range increasing bounded member other with before | behind
        · exact absurd after (Nat.not_lt.mpr before)
        · omega

end Increasing

theorem markedPlaces_eq {test : α → Bool} (increasing : starts.Pairwise (· < ·))
    (agree : ∀ place, place ∈ starts ↔ place < bound ∧ (marks place).any test = true) :
    markedPlaces bound test marks = starts := by
  have ordered : (markedPlaces bound test marks).Pairwise (· < ·) :=
    List.pairwise_lt_range.filter _
  have same : (⟨_, ordered⟩ : SortedSet) = ⟨starts, increasing⟩ := by
    apply SortedSet.ext_mem
    intro place
    simp only [SortedSet.mem_iff]
    rw [agree]
    simp [markedPlaces]
  exact congrArg SortedSet.toList same

end Foundations

import Mathlib.Data.List.Rotate

/-!
# Cyclic successors

The items of a list are in the order of their keys.  From a place one goes on to the first
item behind it, and over the end of the list to the first one of all.  As many steps as
there are items come by each of them once, in their order.
-/

namespace Foundations

variable {α : Type} {key : α → Nat} {items : List α} {place : Nat}

/-- The first item behind a place, or the first one of all. -/
def cyclicNext (key : α → Nat) (items : List α) (place : Nat) : Option α :=
  (items.find? fun item => place < key item).or items.head?

/-- The items that the steps come by. -/
def cyclicWalk (key : α → Nat) (items : List α) : Nat → Nat → List α
  | 0, _ => []
  | steps + 1, place =>
      match cyclicNext key items place with
      | none => []
      | some item => item :: cyclicWalk key items steps (key item)

/-- How many items are not behind a place. -/
def upTo (key : α → Nat) (items : List α) (place : Nat) : Nat :=
  items.countP fun item => key item ≤ place

theorem upTo_le_length : upTo key items place ≤ items.length :=
  List.countP_le_length

theorem upTo_cons_of_le {head : α} (reached : key head ≤ place) :
    upTo key (head :: items) place = upTo key items place + 1 :=
  List.countP_cons_of_pos (decide_eq_true reached)

theorem upTo_eq_zero (behind : ∀ item ∈ items, place < key item) :
    upTo key items place = 0 := by
  refine List.countP_eq_zero.mpr fun item member => ?_
  rw [decide_eq_true_eq]
  exact Nat.not_le_of_lt (behind item member)

section Ordered

variable (ordered : items.Pairwise fun left right => key left < key right)

include ordered in
theorem find?_behind :
    (items.find? fun item => place < key item) = items[upTo key items place]? := by
  induction items with
  | nil => rfl
  | cons head tail ih =>
      obtain ⟨first, later⟩ := List.pairwise_cons.mp ordered
      rw [List.find?_cons]
      by_cases behind : place < key head
      · have all : ∀ item ∈ head :: tail, place < key item := by
          intro item member
          rcases List.mem_cons.mp member with rfl | inside
          · exact behind
          · exact Nat.lt_trans behind (first item inside)
        rw [decide_eq_true behind, upTo_eq_zero all]
        rfl
      · rw [decide_eq_false behind, upTo_cons_of_le (Nat.le_of_not_lt behind)]
        exact ih later

include ordered in
theorem cyclicNext_eq :
    cyclicNext key items place = items[upTo key items place % items.length]? := by
  have within : upTo key items place ≤ items.length := upTo_le_length
  unfold cyclicNext
  rw [find?_behind ordered]
  rcases Nat.lt_or_eq_of_le within with below | all
  · rw [Nat.mod_eq_of_lt below, List.getElem?_eq_getElem below]
    rfl
  · rw [all, Nat.mod_self, List.getElem?_eq_none (Nat.le_refl _), Option.none_or,
      List.head?_eq_getElem?]

include ordered in
theorem exists_cyclicNext_behind (some : ∃ item ∈ items, place < key item) :
    ∃ next ∈ items, cyclicNext key items place = .some next ∧ place < key next ∧
      ∀ other ∈ items, place < key other → key next ≤ key other := by
  cases found : items.find? fun item => place < key item with
  | none =>
      obtain ⟨item, member, behind⟩ := some
      exact absurd (decide_eq_true behind) (List.find?_eq_none.mp found item member)
  | some next =>
      have first : cyclicNext key items place = .some next := by
        unfold cyclicNext
        rw [found]
        rfl
      obtain ⟨behind, front, back, split, early⟩ := List.find?_eq_some_iff_append.mp found
      refine ⟨next, List.mem_of_find?_eq_some found, first, of_decide_eq_true behind,
        fun other member later => ?_⟩
      rw [split] at ordered member
      rcases List.mem_append.mp member with before | here
      · have refused := early other before
        rw [decide_eq_true later] at refused
        cases refused
      · rcases List.mem_cons.mp here with rfl | after
        · exact Nat.le_refl _
        · exact Nat.le_of_lt
            (List.rel_of_pairwise_cons (List.pairwise_append.mp ordered).2.1 after)

include ordered in
theorem exists_cyclicNext_first (some : items ≠ [])
    (nothing : ∀ item ∈ items, key item ≤ place) :
    ∃ first ∈ items, cyclicNext key items place = .some first ∧
      ∀ other ∈ items, key first ≤ key other := by
  cases items with
  | nil => exact absurd rfl some
  | cons first rest =>
      have none : ((first :: rest).find? fun item => place < key item) = none := by
        refine List.find?_eq_none.mpr fun item member => ?_
        rw [decide_eq_true_eq]
        exact Nat.not_lt_of_le (nothing item member)
      refine ⟨first, List.mem_cons_self, ?_, fun other member => ?_⟩
      · unfold cyclicNext
        rw [none]
        rfl
      · rcases List.mem_cons.mp member with rfl | later
        · exact Nat.le_refl _
        · exact Nat.le_of_lt (List.rel_of_pairwise_cons ordered later)

include ordered in
theorem upTo_key {index : Nat} {item : α} (found : items[index]? = some item) :
    upTo key items (key item) = index + 1 := by
  induction items generalizing index with
  | nil => cases found
  | cons head tail ih =>
      obtain ⟨first, later⟩ := List.pairwise_cons.mp ordered
      cases index with
      | zero =>
          cases found
          rw [upTo_cons_of_le (Nat.le_refl _), upTo_eq_zero first]
      | succ index =>
          have above := first item (List.mem_of_getElem? found)
          rw [upTo_cons_of_le (Nat.le_of_lt above), ih later found]

include ordered in
/-- The items come one after the other, and after the last one the first. -/
theorem cyclicWalk_getElem? {steps index : Nat} (below : index < steps) :
    (cyclicWalk key items steps place)[index]? =
      items[(upTo key items place + index) % items.length]? := by
  induction steps generalizing place index with
  | zero => exact absurd below (Nat.not_lt_zero _)
  | succ steps ih =>
      rw [cyclicWalk]
      cases next : cyclicNext key items place with
      | none =>
          rw [cyclicNext_eq ordered, List.getElem?_eq_none_iff] at next
          have empty : items.length = 0 := by
            by_contra some
            have inside := Nat.mod_lt (upTo key items place) (Nat.pos_of_ne_zero some)
            omega
          rw [List.getElem?_nil, List.length_eq_zero_iff.mp empty, List.getElem?_nil]
      | some item =>
          rw [cyclicNext_eq ordered] at next
          cases index with
          | zero => exact next.symm
          | succ index =>
              rw [List.getElem?_cons_succ, ih (Nat.lt_of_succ_lt_succ below),
                upTo_key ordered next, Nat.add_assoc, Nat.mod_add_mod,
                Nat.add_comm 1 index]

theorem cyclicWalk_length {steps : Nat} (some : items ≠ []) :
    (cyclicWalk key items steps place).length = steps := by
  induction steps generalizing place with
  | zero => rfl
  | succ steps ih =>
      obtain ⟨first, firstItem⟩ := Option.ne_none_iff_exists'.mp
        (mt List.head?_eq_none_iff.mp some)
      rw [cyclicWalk]
      cases next : cyclicNext key items place with
      | none =>
          unfold cyclicNext at next
          rw [firstItem, Option.or_eq_none_iff] at next
          cases next.2
      | some item => exact congrArg (· + 1) ih

include ordered in
theorem cyclicWalk_round :
    cyclicWalk key items items.length place = items.rotate (upTo key items place) := by
  by_cases some : items = []
  · rw [some]
    rfl
  · refine List.ext_getElem? fun index => ?_
    by_cases below : index < items.length
    · rw [cyclicWalk_getElem? ordered below, List.getElem?_rotate below, Nat.add_comm]
    · have beyond := Nat.le_of_not_lt below
      rw [List.getElem?_eq_none (by rwa [cyclicWalk_length some]),
        List.getElem?_eq_none (by rwa [List.length_rotate])]

end Ordered

end Foundations

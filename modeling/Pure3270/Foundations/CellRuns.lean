import Mathlib.Data.List.Basic

/-!
# Runs of cells

Loops over consecutive cells of a list: filling them with a value and moving
their values one cell up or down.  Each loop visits its cells in the order in
which every value is read before it is overwritten.
-/

namespace Foundations

variable {α : Type}

/-- Store a value in `count` cells from `first` on. -/
def fillRun (value : α) : Nat → Nat → List α → List α
  | _, 0, cells => cells
  | first, count + 1, cells => fillRun value (first + 1) count (cells.set first value)

/-- Copy one cell into another; a cell outside the list is neither read nor
written. -/
def copyCell (source target : Nat) (cells : List α) : List α :=
  match cells[source]? with
  | none => cells
  | some value => cells.set target value

/-- Move the values of `count` cells from `first` on one cell up, the last one
first. -/
def shiftUp (first : Nat) : Nat → List α → List α
  | 0, cells => cells
  | count + 1, cells =>
      shiftUp first count (copyCell (first + count) (first + count + 1) cells)

/-- Move the values of `count` cells behind `first` one cell down, the first
one first. -/
def shiftDown : Nat → Nat → List α → List α
  | _, 0, cells => cells
  | first, count + 1, cells =>
      shiftDown (first + 1) count (copyCell (first + 1) first cells)

@[simp] theorem length_fillRun (value : α) (first count : Nat) (cells : List α) :
    (fillRun value first count cells).length = cells.length := by
  induction count generalizing first cells with
  | zero => rfl
  | succ count ih => rw [fillRun, ih, List.length_set]

@[simp] theorem length_copyCell (source target : Nat) (cells : List α) :
    (copyCell source target cells).length = cells.length := by
  unfold copyCell
  split
  · rfl
  · exact List.length_set

@[simp] theorem length_shiftUp (first count : Nat) (cells : List α) :
    (shiftUp first count cells).length = cells.length := by
  induction count generalizing cells with
  | zero => rfl
  | succ count ih => rw [shiftUp, ih, length_copyCell]

@[simp] theorem length_shiftDown (first count : Nat) (cells : List α) :
    (shiftDown first count cells).length = cells.length := by
  induction count generalizing first cells with
  | zero => rfl
  | succ count ih => rw [shiftDown, ih, length_copyCell]

variable {cells : List α} {value : α} {first count source target pos : Nat}

theorem getElem?_fillRun (inside : first + count ≤ cells.length) :
    (fillRun value first count cells)[pos]? =
      if first ≤ pos ∧ pos < first + count then some value else cells[pos]? := by
  induction count generalizing first cells with
  | zero => rw [fillRun, if_neg (by omega)]
  | succ count ih =>
      rw [fillRun, ih (by rw [List.length_set]; omega), List.getElem?_set]
      by_cases here : first = pos
      · subst here
        rw [if_neg (by omega), if_pos rfl, if_pos (by omega), if_pos (by omega)]
      · rw [if_neg here]
        exact if_congr (by omega) rfl rfl

theorem getElem?_copyCell (readable : source < cells.length)
    (writable : target < cells.length) :
    (copyCell source target cells)[pos]? =
      if pos = target then cells[source]? else cells[pos]? := by
  have read : cells[source]? = some cells[source] := List.getElem?_eq_getElem readable
  unfold copyCell
  rw [read, List.getElem?_set]
  by_cases here : target = pos
  · subst here
    simp [writable]
  · simp [here, Ne.symm here]

theorem getElem?_shiftUp (inside : first + count < cells.length) :
    (shiftUp first count cells)[pos]? =
      if first < pos ∧ pos ≤ first + count then cells[pos - 1]? else cells[pos]? := by
  induction count generalizing cells with
  | zero => rw [shiftUp, if_neg (by omega)]
  | succ count ih =>
      have copied : ∀ other, (copyCell (first + count) (first + count + 1) cells)[other]? =
          if other = first + count + 1 then cells[first + count]? else cells[other]? :=
        fun other => getElem?_copyCell (by omega) (by omega)
      rw [shiftUp, ih (by rw [length_copyCell]; omega)]
      by_cases moved : first < pos ∧ pos ≤ first + count
      · rw [if_pos moved, if_pos (by omega), copied, if_neg (by omega)]
      · rw [if_neg moved, copied]
        by_cases last : pos = first + count + 1
        · rw [if_pos last, if_pos (by omega), last]
          rfl
        · rw [if_neg last, if_neg (by omega)]

theorem getElem?_shiftDown (inside : first + count < cells.length) :
    (shiftDown first count cells)[pos]? =
      if first ≤ pos ∧ pos < first + count then cells[pos + 1]? else cells[pos]? := by
  induction count generalizing first cells with
  | zero => rw [shiftDown, if_neg (by omega)]
  | succ count ih =>
      have copied : ∀ other, (copyCell (first + 1) first cells)[other]? =
          if other = first then cells[first + 1]? else cells[other]? :=
        fun other => getElem?_copyCell (by omega) (by omega)
      rw [shiftDown, ih (by rw [length_copyCell]; omega)]
      by_cases moved : first + 1 ≤ pos ∧ pos < first + 1 + count
      · rw [if_pos moved, if_pos (by omega), copied, if_neg (by omega)]
      · rw [if_neg moved, copied]
        by_cases here : pos = first
        · rw [if_pos here, if_pos (by omega), here]
        · rw [if_neg here, if_neg (by omega)]

theorem getElem?_foldl_set (places : List Nat) :
    (places.foldl (fun cells place => cells.set place value) cells)[pos]? =
      if pos ∈ places ∧ pos < cells.length then some value else cells[pos]? := by
  induction places generalizing cells with
  | nil => rw [List.foldl_nil, if_neg (fun both => List.not_mem_nil both.1)]
  | cons place places ih =>
      rw [List.foldl_cons, ih, List.length_set, List.getElem?_set]
      by_cases here : place = pos
      · subst here
        by_cases inside : place < cells.length
        · rw [if_pos rfl, if_pos inside, ite_self, if_pos ⟨List.mem_cons_self, inside⟩]
        · have outside : ¬ (place ∈ place :: places ∧ place < cells.length) :=
            fun both => inside both.2
          have none : cells[place]? = none := List.getElem?_eq_none (Nat.le_of_not_lt inside)
          rw [if_pos rfl, if_neg inside, if_neg outside, none]
          exact if_neg fun both => inside both.2
      · rw [if_neg here]
        refine if_congr (and_congr_left fun _ => ?_) rfl rfl
        exact ⟨.tail _, fun member => (List.mem_cons.mp member).resolve_left (Ne.symm here)⟩

end Foundations

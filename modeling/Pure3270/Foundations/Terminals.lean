import Mathlib.Data.List.Basic
import Mathlib.Data.Nat.Basic

/-!
# Terminals

A terminal shows a symbol in each cell of a grid and has a cursor and a saved cursor on
it.  Its commands keep both on the grid.  A linear store holds the display row by row.
-/

namespace Foundations

variable {rows cols : Nat} {α : Type}

structure Terminal (rows cols : Nat) (α : Type) where
  display : Fin rows → Fin cols → α
  row : Fin rows
  col : Fin cols
  savedRow : Fin rows
  savedCol : Fin cols

namespace Terminal

/-- The part of the display or of a line that is erased, with the cursor's own cell. -/
inductive Part where
  | onward
  | back
  | all
  deriving DecidableEq

inductive Command (α : Type) where
  | print (symbol : α)
  | lineFeed
  | carriageReturn
  | tabulate
  | moveTo (row col : Nat)
  | up (count : Nat)
  | down (count : Nat)
  | forward (count : Nat)
  | backward (count : Nat)
  | save
  | restore
  | eraseDisplay (part : Part)
  | eraseLine (part : Part)
  | reset
  | ignore

/-- The place with this number, or the last one; some place shows that there are any. -/
def clampTo {size : Nat} (some : Fin size) (place : Nat) : Fin size :=
  ⟨min place (size - 1), by have bound := some.isLt; omega⟩

def moveTo (row col : Nat) (terminal : Terminal rows cols α) : Terminal rows cols α :=
  { terminal with row := clampTo terminal.row row, col := clampTo terminal.col col }

/-- Behind the last column the cursor goes to the next line, and on the last line to its
start. -/
def advance (terminal : Terminal rows cols α) : Terminal rows cols α :=
  if terminal.col.val + 1 < cols then terminal.moveTo terminal.row (terminal.col + 1)
  else terminal.moveTo (terminal.row + 1) 0

def print (symbol : α) (terminal : Terminal rows cols α) : Terminal rows cols α :=
  { terminal with
    display := fun row col =>
      if row = terminal.row ∧ col = terminal.col then symbol else terminal.display row col }

/-- Blank the cells that are named. -/
def erase (blank : α) (erased : Fin rows → Fin cols → Bool)
    (terminal : Terminal rows cols α) : Terminal rows cols α :=
  { terminal with
    display := fun row col => if erased row col then blank else terminal.display row col }

def onDisplay (part : Part) (terminal : Terminal rows cols α) (row : Fin rows)
    (col : Fin cols) : Bool :=
  match part with
  | .onward => terminal.row < row || (terminal.row = row && terminal.col ≤ col)
  | .back => row < terminal.row || (row = terminal.row && col ≤ terminal.col)
  | .all => true

def onLine (part : Part) (terminal : Terminal rows cols α) (row : Fin rows)
    (col : Fin cols) : Bool :=
  row = terminal.row &&
    match part with
    | .onward => terminal.col ≤ col
    | .back => col ≤ terminal.col
    | .all => true

/-- Everything blank, both cursors at home. -/
def reset (blank : α) (terminal : Terminal rows cols α) : Terminal rows cols α where
  display _ _ := blank
  row := clampTo terminal.row 0
  col := clampTo terminal.col 0
  savedRow := clampTo terminal.row 0
  savedCol := clampTo terminal.col 0

def obey (blank : α) (terminal : Terminal rows cols α) : Command α → Terminal rows cols α
  | .print symbol => (terminal.print symbol).advance
  | .lineFeed => terminal.moveTo (terminal.row + 1) 0
  | .carriageReturn => terminal.moveTo terminal.row 0
  | .tabulate => terminal.moveTo terminal.row ((terminal.col / 8 + 1) * 8)
  | .moveTo row col => terminal.moveTo row col
  | .up count => terminal.moveTo (terminal.row - count) terminal.col
  | .down count => terminal.moveTo (terminal.row + count) terminal.col
  | .forward count => terminal.moveTo terminal.row (terminal.col + count)
  | .backward count => terminal.moveTo terminal.row (terminal.col - count)
  | .save => { terminal with savedRow := terminal.row, savedCol := terminal.col }
  | .restore => { terminal with row := terminal.savedRow, col := terminal.savedCol }
  | .eraseDisplay part => terminal.erase blank (terminal.onDisplay part)
  | .eraseLine part => terminal.erase blank (terminal.onLine part)
  | .reset => terminal.reset blank
  | .ignore => terminal

/-- Places of a row by row store are in the order of their rows and columns. -/
theorem rowMajor_le_iff {row otherRow col otherCol : Nat} (inside : col < cols)
    (otherInside : otherCol < cols) :
    row * cols + col ≤ otherRow * cols + otherCol ↔
      row < otherRow ∨ row = otherRow ∧ col ≤ otherCol := by
  rcases Nat.lt_trichotomy row otherRow with above | rfl | below
  · have apart : (row + 1) * cols ≤ otherRow * cols := Nat.mul_le_mul_right cols above
    rw [Nat.succ_mul] at apart
    omega
  · omega
  · have apart : (otherRow + 1) * cols ≤ row * cols := Nat.mul_le_mul_right cols below
    rw [Nat.succ_mul] at apart
    omega

theorem rowMajor_eq_iff {row otherRow col otherCol : Nat} (inside : col < cols)
    (otherInside : otherCol < cols) :
    row * cols + col = otherRow * cols + otherCol ↔ row = otherRow ∧ col = otherCol := by
  have onward : row * cols + col ≤ otherRow * cols + otherCol ↔ _ :=
    rowMajor_le_iff inside otherInside
  have back : otherRow * cols + otherCol ≤ row * cols + col ↔ _ :=
    rowMajor_le_iff otherInside inside
  omega

/-- The store holds the display. -/
def Stored (display : Fin rows → Fin cols → α) (store : List α) : Prop :=
  ∀ row col, store[row.val * cols + col.val]? = some (display row col)

variable {terminal : Terminal rows cols α} {store : List α}

theorem Stored.print (stored : Stored terminal.display store) (symbol : α) :
    Stored (terminal.print symbol).display
      (store.set (terminal.row * cols + terminal.col) symbol) := by
  intro row col
  have place := stored row col
  have inside := (List.getElem?_eq_some_iff.mp place).1
  rw [List.getElem?_set]
  unfold Terminal.print
  simp only
  by_cases here : row = terminal.row ∧ col = terminal.col
  · obtain ⟨rfl, rfl⟩ := here
    rw [if_pos rfl, if_pos inside, if_pos ⟨rfl, rfl⟩]
  · have elsewhere : ¬ terminal.row * cols + terminal.col = row * cols + col := by
      rw [rowMajor_eq_iff terminal.col.isLt col.isLt]
      rintro ⟨sameRow, sameCol⟩
      exact here ⟨Fin.ext sameRow.symm, Fin.ext sameCol.symm⟩
    rw [if_neg elsewhere, if_neg here, place]

theorem Stored.erase (stored : Stored terminal.display store) (blank : α)
    {erased : Fin rows → Fin cols → Bool} {first last : Nat}
    (run : ∀ row col, erased row col = true ↔
      first ≤ row.val * cols + col.val ∧ row.val * cols + col.val < last) :
    Stored (terminal.erase blank erased).display
      (store.mapIdx fun place symbol =>
        if first ≤ place ∧ place < last then blank else symbol) := by
  intro row col
  rw [List.getElem?_mapIdx, stored row col]
  unfold Terminal.erase
  simp only [Option.map_some, run]

theorem Stored.blank (blank : α) :
    Stored (fun _ _ => blank : Fin rows → Fin cols → α) (List.replicate (rows * cols) blank) := by
  intro row col
  have inside : row.val * cols + col.val < rows * cols := by
    have apart : (row.val + 1) * cols ≤ rows * cols := Nat.mul_le_mul_right cols row.isLt
    rw [Nat.succ_mul] at apart
    have bound := col.isLt
    omega
  rw [List.getElem?_replicate_of_lt inside]

end Terminal

end Foundations

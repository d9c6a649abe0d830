import Mathlib.Logic.Function.Iterate
import Pure3270.Foundations.Residues
import Pure3270.Foundations.Marks
import Pure3270.Foundations.Runs
import Pure3270.Protocol.AddressLaw

/-!
# The presentation space

A host writes its records on a presentation space: bytes and field attributes by address, and
the address of the next byte.  An attribute governs the addresses up to the next one.
-/

namespace Pure3270

open Foundations

/-- Whether the orders look up the fields that the record itself has begun is settled before
the record; so are the stops left behind by a VT100 screen. -/
structure PresentationSpace where
  rows : Nat
  cols : Nat
  looksUp : Bool
  asciiStops : List Nat
  cells : Nat → UInt8
  marks : Nat → Option UInt8
  address : Nat

namespace PresentationSpace

def size (space : PresentationSpace) : Nat := space.rows * space.cols

/-- Nothing is written yet. -/
def blank (rows cols : Nat) (looksUp : Bool) (asciiStops : List Nat) : PresentationSpace where
  rows
  cols
  looksUp
  asciiStops
  cells := fun _ => 0x40
  marks := fun _ => none
  address := 0

def moveTo (address : Nat) (space : PresentationSpace) : PresentationSpace :=
  { space with address }

/-- An address behind the end leads to its column in the last row. -/
def landing (address : Nat) (space : PresentationSpace) : Nat :=
  min (address / space.cols) (space.rows - 1) * space.cols + address % space.cols

/-- After the last address comes the first one of the last row. -/
def next (space : PresentationSpace) : Nat :=
  if space.address + 1 < space.size then space.address + 1
  else (space.rows - 1) * space.cols

def put (byte : UInt8) (space : PresentationSpace) : PresentationSpace :=
  { space with
    cells := Function.update space.cells space.address byte
    address := space.next }

/-- Nulls are passed over. -/
def store (byte : UInt8) (space : PresentationSpace) : PresentationSpace :=
  if byte = 0x00 then space else space.put byte

def mark (attr : UInt8) (space : PresentationSpace) : PresentationSpace :=
  { space with
    cells := Function.update space.cells space.address attr
    marks := Function.update space.marks space.address (some attr) }

/-- A field in the last column leaves the address where it is. -/
def nextColumn (space : PresentationSpace) : Nat :=
  if space.address % space.cols + 1 < space.cols then space.address + 1 else space.address

def startField (attr : UInt8) (space : PresentationSpace) : PresentationSpace :=
  (space.mark attr).moveTo space.nextColumn

/-- The last base attribute of a list of pairs starts a field. -/
def startFieldExtended (pairs : List (UInt8 × UInt8)) (space : PresentationSpace) :
    PresentationSpace :=
  match baseAttribute pairs with
  | some attr => space.startField attr
  | none => space

def protectsBy (attr : UInt8) : Bool := attr &&& 0x40 ≠ 0

def protects (pos : Nat) (space : PresentationSpace) : Bool :=
  (governing space.marks pos).any protectsBy

/-- The protection that the orders of the record see. -/
def guards (pos : Nat) (space : PresentationSpace) : Bool :=
  space.looksUp && space.protects pos

/-- The starts of the unprotected fields. -/
def inputs (space : PresentationSpace) : List Nat :=
  markedPlaces space.size (fun attr => !protectsBy attr) space.marks

def knownInputs (space : PresentationSpace) : List Nat :=
  if space.looksUp then space.inputs else []

def moveToAny (target : Option Nat) (space : PresentationSpace) : PresentationSpace :=
  match target with
  | some address => space.moveTo address
  | none => space

/-- An unprotected field behind the address, or a stop behind it, or the first one of all. -/
def nextInput (space : PresentationSpace) : Option Nat :=
  ((space.knownInputs.find? fun start => space.address < start).or
      (space.asciiStops.find? fun stop => space.address < stop)).or
    (space.knownInputs.head?.or space.asciiStops.head?)

def eraseCell (pos : Nat) (space : PresentationSpace) : PresentationSpace :=
  { space with
    cells := if space.guards pos then space.cells else Function.update space.cells pos 0x40 }

/-- A number of cells is erased, one after another and round the end. -/
def sweep (count start : Nat) (space : PresentationSpace) : PresentationSpace :=
  { space with
    cells := fun pos =>
      if (∃ step < count, (start + step) % space.size = pos) ∧ space.guards pos = false
      then 0x40 else space.cells pos }

/-- The addresses up to the target, other than the protected ones, hold a space. -/
def eraseTo (target : Nat) (space : PresentationSpace) : PresentationSpace :=
  { space with
    cells := fun pos =>
      if UpTo space.address target pos ∧ space.guards pos = false then 0x40
      else space.cells pos
    address := target }

/-- Where the address of an order leads. -/
def target (mode : AddressingMode) (high low : UInt8) (space : PresentationSpace) : Nat :=
  space.landing (AddressCalculator.clampAddress (decodeAddress mode high low) mode)

def repeatTo (byte : UInt8) (target : Nat) (space : PresentationSpace) : PresentationSpace :=
  ((store byte)^[stepsUpTo space.size space.address target] space).moveTo target

/-- Character attributes are not part of the space. -/
def perform (mode : AddressingMode) (item : Item) (space : PresentationSpace) :
    PresentationSpace :=
  match item with
  | .data byte => space.store byte
  | .sba high low => space.moveTo (space.target mode high low)
  | .sf attr => space.startField attr
  | .sa _ _ => space
  | .sfe pairs => space.startFieldExtended pairs
  | .ra high low charToRepeat => space.repeatTo charToRepeat (space.target mode high low)
  | .eua high low => space.eraseTo (space.target mode high low)
  | .ge graphicByte => space.store (DataStreamParser.geCharByte graphicByte)
  | .ic => space.moveToAny space.knownInputs.head?
  | .pt => space.moveToAny space.nextInput

/-- The space that a list of orders describes. -/
def performAll (mode : AddressingMode) (items : List Item) (space : PresentationSpace) :
    PresentationSpace :=
  run (perform mode) items space

variable {space : PresentationSpace}

theorem store_looksUp (byte : UInt8) (space : PresentationSpace) :
    (space.store byte).looksUp = space.looksUp := by
  unfold store
  split <;> rfl

theorem repeated_looksUp (byte : UInt8) (count : Nat) (space : PresentationSpace) :
    ((store byte)^[count] space).looksUp = space.looksUp := by
  induction count generalizing space with
  | zero => rfl
  | succ count ih => exact (ih (space.store byte)).trans (store_looksUp byte space)

/-- Orders have no say in whether they look up fields. -/
theorem perform_looksUp (mode : AddressingMode) (item : Item) (space : PresentationSpace) :
    (space.perform mode item).looksUp = space.looksUp := by
  cases item with
  | data byte => exact store_looksUp byte space
  | sfe pairs =>
      unfold perform startFieldExtended
      simp only
      split <;> rfl
  | ra high low charToRepeat => exact repeated_looksUp charToRepeat _ space
  | ge graphicByte => exact store_looksUp _ space
  | ic =>
      unfold perform moveToAny
      simp only
      split <;> rfl
  | pt =>
      unfold perform moveToAny
      simp only
      split <;> rfl
  | _ => rfl

theorem performAll_looksUp (mode : AddressingMode) (items : List Item)
    (space : PresentationSpace) : (space.performAll mode items).looksUp = space.looksUp := by
  induction items generalizing space with
  | nil => rfl
  | cons item items ih =>
      exact (ih (space.perform mode item)).trans (space.perform_looksUp mode item)

theorem sweep_zero (start : Nat) (space : PresentationSpace) : space.sweep 0 start = space := by
  unfold sweep
  simp

/-- The first cell of a sweep is erased before the others. -/
theorem sweep_succ {start : Nat} (inside : start < space.size) (count : Nat) :
    space.sweep (count + 1) start =
      (space.eraseCell start).sweep count ((start + 1) % space.size) := by
  unfold sweep
  congr 1
  funext pos
  have steps : (∃ step < count + 1, (start + step) % space.size = pos) ↔
      start = pos ∨ ∃ step < count, ((start + 1) % space.size + step) % space.size = pos := by
    rw [Nat.exists_lt_succ_left, Nat.add_zero, Nat.mod_eq_of_lt inside]
    simp only [Nat.mod_add_mod, Nat.add_assoc, Nat.add_comm 1]
  rw [if_congr (and_congr_left' steps) rfl rfl]
  change _ = if (∃ step < count, ((start + 1) % space.size + step) % space.size = pos) ∧
      space.guards pos = false then 0x40
    else (if space.guards start then space.cells
      else Function.update space.cells start 0x40) pos
  by_cases here : start = pos
  · subst here
    cases guarded : space.guards start <;> simp
  · cases space.guards start <;> simp [here, Ne.symm here]

theorem sweep_range {target pos : Nat} (here : space.address < space.size)
    (there : target < space.size) (inside : pos < space.size) :
    (space.sweep (stepsUpTo space.size space.address target) space.address).cells pos =
      (space.eraseTo target).cells pos := by
  unfold sweep eraseTo
  simp only [← upTo_iff_exists_step here there inside]

end PresentationSpace

end Pure3270

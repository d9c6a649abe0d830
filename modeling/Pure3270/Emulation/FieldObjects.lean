import Pure3270.Emulation.FieldLayout
import Pure3270.Foundations.ObjectHeap

/-!
# Fields as objects

The field list and its two caches hold references.  Detection makes a new object
for every field and enters it everywhere; an operation on one field puts a new
object into the list only, so that a cache may go on leading to the old one.
-/

namespace Pure3270

open Foundations

/-- Replacing the first element that has a replacement is setting it. -/
theorem replaceF_eq_set {α : Type} {replace : α → Option α} {items : List α} {index : Nat}
    {old new : α} (first : items.findIdx? (fun item => (replace item).isSome) = some index)
    (there : items[index]? = some old) (found : replace old = some new) :
    items.replaceF replace = items.set index new := by
  induction items generalizing index with
  | nil => cases first
  | cons item rest ih =>
      rw [List.findIdx?_cons] at first
      cases here : replace item with
      | some value =>
          rw [here] at first
          cases first
          cases there
          rw [List.replaceF_cons_of_some _ found]
          rfl
      | none =>
          rw [here] at first
          obtain ⟨later, next, rfl⟩ := Option.map_eq_some_iff.mp first
          rw [List.replaceF_cons_of_none _ here, ih next there]
          rfl

namespace ScreenBuffer

theorem detectedFields_increasing (screen : ScreenBuffer) :
    screen.detectedFields.Pairwise fun left right =>
      left.startIndex screen.cols ≤ right.startIndex screen.cols := by
  refine (detectedFields_apart screen).imp_of_mem ?_
  intro left right leftMember _ apart
  have ordered := (detectedFields_range leftMember).2.1
  omega

end ScreenBuffer

/-- The field list and the caches, by reference. -/
structure FieldObjects where
  heap : ObjectHeap Field
  fields : List Nat
  positionCache : Nat → Option Nat
  inputCache : List Nat

namespace FieldObjects

/-- No fields at all. -/
def empty : FieldObjects where
  heap := { object := fun _ => Field.init { start := (0, 0), finish := (0, 0) }, next := 0 }
  fields := []
  positionCache := fun _ => none
  inputCache := []

/-- The object behind a reference contains the position. -/
def contains (cols pos : Nat) (objects : FieldObjects) (reference : Nat) : Bool :=
  ScreenBuffer.containsIndex cols pos (objects.heap.object reference)

def takesInput (objects : FieldObjects) (reference : Nat) : Bool :=
  !(objects.heap.object reference).isProtected

/-- The linear search of `get_field_at_position`. -/
def scan (cols pos : Nat) (objects : FieldObjects) : Option Nat :=
  objects.fields.find? (objects.contains cols pos)

/-- The linear search of `move_cursor_to_first_input_field`. -/
def scanInput (objects : FieldObjects) : Option Nat :=
  objects.fields.find? objects.takesInput

/-- `_detect_fields` with `_build_field_caches`, for the fields it detects. -/
def detect (cols : Nat) (detected : List Field) (objects : FieldObjects) : FieldObjects :=
  let made := objects.heap.allocateAll detected
  { heap := made.1
    fields := made.2
    positionCache := fun pos => made.2.reverse.find? fun reference =>
      ScreenBuffer.containsIndex cols pos (made.1.object reference)
    inputCache := (made.2.filter fun reference =>
        !(made.1.object reference).isProtected).insertionSort fun left right =>
      (made.1.object left).startIndex cols ≤ (made.1.object right).startIndex cols }

/-- `self.fields[index] = field` with a new object. -/
def replaceAt (index : Nat) (field : Field) (objects : FieldObjects) : FieldObjects :=
  { objects with
    heap := objects.heap.allocate field
    fields := objects.fields.set index objects.heap.next }

/-- The loop over the list that replaces the element that is the given object. -/
def replaceObject (reference : Nat) (field : Field) (objects : FieldObjects) : FieldObjects :=
  match objects.fields.idxOf? reference with
  | some index => objects.replaceAt index field
  | none => objects

section Detect

variable (cols : Nat) (detected : List Field) (objects : FieldObjects)

theorem map_object_detect :
    (objects.detect cols detected).fields.map (objects.detect cols detected).heap.object =
      detected :=
  ObjectHeap.map_object_allocateAll detected objects.heap

theorem holds_detect {reference : Nat}
    (member : reference ∈ (objects.detect cols detected).fields) :
    (objects.detect cols detected).heap.Holds reference :=
  ObjectHeap.holds_allocateAll member

end Detect

theorem pairwise_detect {relation : Field → Field → Prop} {detected : List Field}
    (related : detected.Pairwise relation) (cols : Nat) (objects : FieldObjects) :
    (objects.detect cols detected).fields.Pairwise fun left right =>
      relation ((objects.detect cols detected).heap.object left)
        ((objects.detect cols detected).heap.object right) := by
  rw [← map_object_detect cols detected objects, List.pairwise_map] at related
  exact related

section Detected

variable {screen : ScreenBuffer} {objects : FieldObjects}

/-- The last field over a position is the first one. -/
theorem positionCache_detect (pos : Nat) :
    (objects.detect screen.cols screen.detectedFields).positionCache pos =
      (objects.detect screen.cols screen.detectedFields).scan screen.cols pos := by
  have apart := pairwise_detect screen.detectedFields_apart screen.cols objects
  show (objects.detect screen.cols screen.detectedFields).fields.reverse.find? _ = _
  exact find?_reverse_of_apart apart fun _ here => ScreenBuffer.containsIndex_iff.mp here

theorem inputCache_detect :
    (objects.detect screen.cols screen.detectedFields).inputCache =
      (objects.detect screen.cols screen.detectedFields).fields.filter
        (objects.detect screen.cols screen.detectedFields).takesInput := by
  have increasing := pairwise_detect screen.detectedFields_increasing screen.cols objects
  exact (increasing.filter _).insertionSort_eq

end Detected

end FieldObjects

end Pure3270

import Mathlib.Data.List.Basic

/-!
# Objects and references

Objects are reached through references.  An object that is allocated gets a
reference that no holder has yet; what is stored through one reference is seen
through the others that are equal to it, and through no other.
-/

namespace Foundations

variable {α : Type}

structure ObjectHeap (α : Type) where
  object : Nat → α
  /-- The reference of the next object. -/
  next : Nat

namespace ObjectHeap

/-- A heap with one object, whose reference is 0. -/
def single (object : α) : ObjectHeap α :=
  { object := fun _ => object, next := 1 }

def store (reference : Nat) (value : α) (heap : ObjectHeap α) : ObjectHeap α :=
  { heap with
    object := fun other => if other = reference then value else heap.object other }

/-- The heap with one more object, whose reference is the next one. -/
def allocate (value : α) (heap : ObjectHeap α) : ObjectHeap α :=
  { heap.store heap.next value with next := heap.next + 1 }

/-- The heap with an object for each value, and their references in order. -/
def allocateAll : List α → ObjectHeap α → ObjectHeap α × List Nat
  | [], heap => (heap, [])
  | value :: values, heap =>
      let rest := allocateAll values (heap.allocate value)
      (rest.1, heap.next :: rest.2)

/-- A reference that has been given out. -/
def Holds (heap : ObjectHeap α) (reference : Nat) : Prop :=
  reference < heap.next

theorem object_store (reference : Nat) (value : α) (heap : ObjectHeap α) :
    (heap.store reference value).object reference = value :=
  if_pos rfl

theorem object_store_of_ne {reference other : Nat} (different : other ≠ reference)
    (value : α) (heap : ObjectHeap α) :
    (heap.store reference value).object other = heap.object other :=
  if_neg different

theorem Holds.allocate {heap : ObjectHeap α} {reference : Nat}
    (holds : heap.Holds reference) (value : α) :
    (heap.allocate value).Holds reference :=
  Nat.lt_succ_of_lt holds

theorem holds_next (value : α) (heap : ObjectHeap α) :
    (heap.allocate value).Holds heap.next :=
  Nat.lt_succ_self heap.next

/-- An object that was just allocated is another one than those before. -/
theorem Holds.ne_next {heap : ObjectHeap α} {reference : Nat}
    (holds : heap.Holds reference) : heap.next ≠ reference :=
  (Nat.ne_of_lt holds).symm

theorem object_allocate (value : α) (heap : ObjectHeap α) :
    (heap.allocate value).object heap.next = value :=
  heap.object_store heap.next value

theorem Holds.object_allocate {heap : ObjectHeap α} {reference : Nat}
    (holds : heap.Holds reference) (value : α) :
    (heap.allocate value).object reference = heap.object reference :=
  object_store_of_ne holds.ne_next.symm value heap

theorem Holds.allocateAll {values : List α} {heap : ObjectHeap α} {reference : Nat}
    (holds : heap.Holds reference) :
    (heap.allocateAll values).1.Holds reference ∧
      (heap.allocateAll values).1.object reference = heap.object reference := by
  induction values generalizing heap with
  | nil => exact ⟨holds, rfl⟩
  | cons value values ih =>
      obtain ⟨kept, same⟩ := ih (holds.allocate value)
      exact ⟨kept, same.trans (holds.object_allocate value)⟩

theorem holds_allocateAll {values : List α} {heap : ObjectHeap α} {reference : Nat}
    (member : reference ∈ (heap.allocateAll values).2) :
    (heap.allocateAll values).1.Holds reference := by
  induction values generalizing heap with
  | nil => cases member
  | cons value values ih =>
      rcases List.mem_cons.mp member with rfl | later
      · exact (heap.holds_next value).allocateAll.1
      · exact ih later

/-- The new references lead to the values, in order. -/
theorem map_object_allocateAll (values : List α) (heap : ObjectHeap α) :
    (heap.allocateAll values).2.map (heap.allocateAll values).1.object = values := by
  induction values generalizing heap with
  | nil => rfl
  | cons value values ih =>
      have first : ((heap.allocate value).allocateAll values).1.object heap.next = _ :=
        (heap.holds_next value).allocateAll.2
      exact congrArg₂ List.cons (first.trans (heap.object_allocate value))
        (ih (heap.allocate value))

/-- A heap with further objects. -/
structure Extends (before after : ObjectHeap α) : Prop where
  next : before.next ≤ after.next
  object : ∀ reference, before.Holds reference →
    after.object reference = before.object reference

/-- What a holder does to a heap: it stores through its own references only, and what it
holds afterwards it held before or is new. -/
structure HolderStep (held heldAfter : Nat → Prop) (before after : ObjectHeap α) : Prop where
  next : before.next ≤ after.next
  frame : ∀ reference, before.Holds reference → ¬ held reference →
    after.object reference = before.object reference
  origin : ∀ reference, heldAfter reference →
    held reference ∨ (¬ before.Holds reference ∧ after.Holds reference)

/-- Two holders that share no reference. -/
structure Apart (first second : Nat → Prop) (heap : ObjectHeap α) : Prop where
  holdsFirst : ∀ reference, first reference → heap.Holds reference
  holdsSecond : ∀ reference, second reference → heap.Holds reference
  disjoint : ∀ reference, first reference → ¬ second reference

section Holders

variable {before after : ObjectHeap α} {first firstAfter second : Nat → Prop}

theorem HolderStep.refl (heap : ObjectHeap α) : HolderStep first first heap heap where
  next := Nat.le_refl heap.next
  frame _ _ _ := rfl
  origin _ held := .inl held

theorem HolderStep.store {reference : Nat} (held : first reference) (value : α)
    (heap : ObjectHeap α) : HolderStep first first heap (heap.store reference value) where
  next := Nat.le_refl heap.next
  frame other _ free := by
    have different : other ≠ reference := fun same => free (by rw [same]; exact held)
    exact object_store_of_ne different value heap
  origin _ held := .inl held

theorem Extends.holderStep (larger : before.Extends after)
    (origin : ∀ reference, firstAfter reference →
      first reference ∨ (¬ before.Holds reference ∧ after.Holds reference)) :
    HolderStep first firstAfter before after where
  next := larger.next
  frame reference holds _ := larger.object reference holds
  origin

theorem Apart.symm (apart : before.Apart first second) : before.Apart second first where
  holdsFirst := apart.holdsSecond
  holdsSecond := apart.holdsFirst
  disjoint reference second first := apart.disjoint reference first second

theorem Apart.unchanged (apart : before.Apart first second)
    (step : HolderStep first firstAfter before after) {reference : Nat}
    (held : second reference) : after.object reference = before.object reference :=
  step.frame reference (apart.holdsSecond reference held)
    fun shared => apart.disjoint reference shared held

/-- Holders that share no reference do not come to share one. -/
theorem Apart.step (apart : before.Apart first second)
    (step : HolderStep first firstAfter before after) : after.Apart firstAfter second where
  holdsFirst reference held := by
    rcases step.origin reference held with old | ⟨_, new⟩
    · exact Nat.lt_of_lt_of_le (apart.holdsFirst reference old) step.next
    · exact new
  holdsSecond reference held := Nat.lt_of_lt_of_le (apart.holdsSecond reference held) step.next
  disjoint reference held other := by
    rcases step.origin reference held with old | ⟨new, _⟩
    · exact apart.disjoint reference old other
    · exact new (apart.holdsSecond reference other)

end Holders

end ObjectHeap

end Foundations

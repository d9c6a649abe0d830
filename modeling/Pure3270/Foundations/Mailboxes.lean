/-!
# Bounded mailboxes

A queue between senders that never wait and a receiver that takes one item at a
time.  Whatever the order of their steps, what was accepted is what was taken
followed by what is waiting, and an item is refused only by a full mailbox.
-/

namespace Foundations

variable {α : Type}

/-- A mailbox without a positive capacity never fills up. -/
structure Mailbox (α : Type) where
  capacity : Int
  waiting : List α

namespace Mailbox

def empty (capacity : Int) : Mailbox α := { capacity, waiting := [] }

def full (mailbox : Mailbox α) : Bool :=
  decide (0 < mailbox.capacity) && decide (mailbox.capacity ≤ mailbox.waiting.length)

/-- `put_nowait`; a full mailbox refuses the item. -/
def put (item : α) (mailbox : Mailbox α) : Option (Mailbox α) :=
  if mailbox.full then none
  else some { mailbox with waiting := mailbox.waiting ++ [item] }

/-- `get_nowait`. -/
def take (mailbox : Mailbox α) : Option (α × Mailbox α) :=
  match mailbox.waiting with
  | [] => none
  | item :: waiting => some (item, { mailbox with waiting })

/-- Everything that waits, and the mailbox without it. -/
def drain (mailbox : Mailbox α) : List α × Mailbox α :=
  (mailbox.waiting, { mailbox with waiting := [] })

theorem put_capacity {item : α} {mailbox filled : Mailbox α}
    (put : mailbox.put item = some filled) : filled.capacity = mailbox.capacity := by
  unfold Mailbox.put at put
  split at put
  · cases put
  · rw [← Option.some.inj put]

theorem put_eq_none_iff {item : α} {mailbox : Mailbox α} :
    mailbox.put item = none ↔ mailbox.full = true := by
  unfold Mailbox.put
  cases mailbox.full with
  | true => exact iff_of_true rfl rfl
  | false =>
      constructor
      · intro refused
        cases refused
      · intro full
        cases full

theorem take_capacity {item : α} {mailbox rest : Mailbox α}
    (took : mailbox.take = some (item, rest)) : rest.capacity = mailbox.capacity := by
  unfold Mailbox.take at took
  split at took
  · cases took
  · exact congrArg (fun next => next.2.capacity) (Option.some.inj took).symm

end Mailbox

/-- What became of the items that were offered to a mailbox. -/
structure Handled (offered accepted taken : List α) (mailbox : Mailbox α) : Prop where
  inOrder : accepted.Sublist offered
  delivered : accepted = taken ++ mailbox.waiting
  bounded : 0 < mailbox.capacity → (mailbox.waiting.length : Int) ≤ mailbox.capacity
  lost : accepted ≠ offered →
    0 < mailbox.capacity ∧ mailbox.capacity ≤ accepted.length

namespace Handled

variable {offered accepted taken : List α} {mailbox : Mailbox α}

theorem empty (capacity : Int) : Handled [] [] [] (.empty (α := α) capacity) where
  inOrder := List.Sublist.refl []
  delivered := rfl
  bounded positive := Int.le_of_lt positive
  lost differs := absurd rfl differs

theorem offer (handled : Handled offered accepted taken mailbox) (item : α) :
    (mailbox.put item = none → Handled (offered ++ [item]) accepted taken mailbox) ∧
      ∀ {filled}, mailbox.put item = some filled →
        Handled (offered ++ [item]) (accepted ++ [item]) taken filled := by
  unfold Mailbox.put
  cases full : mailbox.full with
  | true =>
      have limits : 0 < mailbox.capacity ∧ mailbox.capacity ≤ mailbox.waiting.length := by
        simpa [Mailbox.full] using full
      refine ⟨fun _ => ⟨?_, handled.delivered, handled.bounded, ?_⟩, fun refused => ?_⟩
      · exact handled.inOrder.trans (List.sublist_append_left offered [item])
      · intro _
        have length : accepted.length = taken.length + mailbox.waiting.length := by
          rw [handled.delivered, List.length_append]
        omega
      · cases refused
  | false =>
      have limits : 0 < mailbox.capacity → mailbox.waiting.length < mailbox.capacity := by
        intro positive
        simpa [Mailbox.full, positive] using full
      refine ⟨fun refused => ?_, fun accepts => ?_⟩
      · cases refused
      · cases accepts
        constructor
        · exact handled.inOrder.append (List.Sublist.refl [item])
        · rw [handled.delivered, List.append_assoc]
        · intro positive
          have room := limits positive
          have length : (mailbox.waiting ++ [item]).length = mailbox.waiting.length + 1 :=
            List.length_append
          change ((mailbox.waiting ++ [item]).length : Int) ≤ mailbox.capacity
          omega
        · intro differs
          have length : (accepted ++ [item]).length = accepted.length + 1 :=
            List.length_append
          have earlier := handled.lost fun same => differs (same ▸ rfl)
          change 0 < mailbox.capacity ∧
            mailbox.capacity ≤ ((accepted ++ [item]).length : Int)
          omega

theorem take (handled : Handled offered accepted taken mailbox) {item : α}
    {rest : Mailbox α} (took : mailbox.take = some (item, rest)) :
    Handled offered accepted (taken ++ [item]) rest := by
  obtain ⟨capacity, waiting⟩ := mailbox
  cases waiting with
  | nil => cases took
  | cons first waiting =>
      cases took
      constructor
      · exact handled.inOrder
      · rw [handled.delivered, List.append_assoc]
        rfl
      · intro (positive : 0 < capacity)
        have bounded : ((item :: waiting).length : Int) ≤ capacity := handled.bounded positive
        rw [List.length_cons] at bounded
        change (waiting.length : Int) ≤ capacity
        omega
      · exact handled.lost

end Handled

end Foundations

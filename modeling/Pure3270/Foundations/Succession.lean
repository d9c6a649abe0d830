import Mathlib.Data.List.Basic
import Pure3270.Foundations.GrowingLists

/-!
# Objects in succession

Objects are begun one after another.  The last one may be current; the others are finished,
and only the last few of them are kept.  Everyone who has met an object can go on calling
it, so what an object has become follows from all calls it has had.
-/

namespace Foundations

variable {α ε : Type}

/-- Objects go by the number they were begun with.  Those no longer kept, the objects as
they were begun and all calls are for the record only. -/
structure Succession (α ε : Type) where
  objects : List α := []
  current : Option Nat := none
  finished : List Nat := []
  dropped : List Nat := []
  begun : List α := []
  calls : List (Nat × ε) := []

namespace Succession

/-- The calls of one object. -/
def callsOf (number : Nat) (calls : List (Nat × ε)) : List ε :=
  calls.filterMap fun entry => if entry.1 = number then some entry.2 else none

section Operations

variable (apply : ε → α → α)

def begin (value : α) (all : Succession α ε) : Succession α ε :=
  { all with
    objects := all.objects ++ [value]
    current := some all.objects.length
    begun := all.begun ++ [value] }

/-- A call of an object, if there is an object of that number. -/
def call (number : Nat) (made : ε) (all : Succession α ε) : Succession α ε :=
  if number < all.objects.length then
    { all with
      objects := all.objects.modify number (apply made)
      calls := all.calls ++ [(number, made)] }
  else all

def callCurrent (made : ε) (all : Succession α ε) : Succession α ε :=
  match all.current with
  | none => all
  | some number => all.call apply number made

/-- Only the last of the finished objects are kept. -/
def prune (limit : Nat) (all : Succession α ε) : Succession α ε :=
  { all with
    finished := keepLast limit all.finished
    dropped := all.dropped ++ all.finished.take (all.finished.length - limit) }

def finish (limit : Nat) (all : Succession α ε) : Succession α ε :=
  match all.current with
  | none => all
  | some number =>
      { all with finished := all.finished ++ [number], current := none }.prune limit

/-- The current object is called a last time and finished. -/
def finishWith (limit : Nat) (made : ε) (all : Succession α ε) : Succession α ε :=
  (all.callCurrent apply made).finish limit

def clear (all : Succession α ε) : Succession α ε :=
  { all with finished := [], dropped := all.dropped ++ all.finished }

end Operations

def currentObject (all : Succession α ε) : Option α :=
  all.current.bind fun number => all.objects[number]?

def finishedObjects (all : Succession α ε) : List α :=
  all.finished.filterMap fun number => all.objects[number]?

/-- The object is there and no longer current. -/
def Past (number : Nat) (all : Succession α ε) : Prop :=
  number < all.objects.length ∧ all.current ≠ some number

variable {apply : ε → α → α} {closes : ε → Prop} {all : Succession α ε}

theorem callsOf_append (number : Nat) (calls more : List (Nat × ε)) :
    callsOf number (calls ++ more) = callsOf number calls ++ callsOf number more := by
  unfold callsOf
  exact List.filterMap_append

theorem callsOf_single (number : Nat) (made : ε) : callsOf number [(number, made)] = [made] := by
  simp [callsOf]

theorem callsOf_other {number other : Nat} (differs : other ≠ number) (made : ε) :
    callsOf number [(other, made)] = [] := by
  simp [callsOf, differs]

theorem call_length (number : Nat) (made : ε) (all : Succession α ε) :
    (all.call apply number made).objects.length = all.objects.length := by
  unfold call
  split
  · exact List.length_modify _ _ _
  · rfl

theorem call_current (number : Nat) (made : ε) (all : Succession α ε) :
    (all.call apply number made).current = all.current := by
  unfold call
  split <;> rfl

theorem call_finished (number : Nat) (made : ε) (all : Succession α ε) :
    (all.call apply number made).finished = all.finished := by
  unfold call
  split <;> rfl

theorem callCurrent_of_some {number : Nat} (current : all.current = some number) (made : ε) :
    all.callCurrent apply made = all.call apply number made := by
  unfold callCurrent
  rw [current]

theorem callCurrent_current (made : ε) (all : Succession α ε) :
    (all.callCurrent apply made).current = all.current := by
  unfold callCurrent
  split
  · rfl
  · exact call_current _ made all

theorem callCurrent_finished (made : ε) (all : Succession α ε) :
    (all.callCurrent apply made).finished = all.finished := by
  unfold callCurrent
  split
  · rfl
  · exact call_finished _ made all

theorem call_begun (number : Nat) (made : ε) (all : Succession α ε) :
    (all.call apply number made).begun = all.begun := by
  unfold call
  split <;> rfl

theorem callCurrent_begun (made : ε) (all : Succession α ε) :
    (all.callCurrent apply made).begun = all.begun := by
  unfold callCurrent
  split
  · rfl
  · exact call_begun _ made all

theorem finishWith_begun (limit : Nat) (made : ε) (all : Succession α ε) :
    (all.finishWith apply limit made).begun = all.begun := by
  unfold finishWith finish
  split
  · exact callCurrent_begun made all
  · exact callCurrent_begun made all

theorem finish_objects (limit : Nat) (all : Succession α ε) :
    (all.finish limit).objects = all.objects := by
  unfold finish
  cases all.current with
  | none => rfl
  | some number => rfl

theorem finish_bounded {limit : Nat} (bounded : all.finished.length ≤ limit) :
    (all.finish limit).finished.length ≤ limit := by
  unfold finish
  split
  · exact bounded
  · exact Nat.le_trans (Nat.le_of_eq (keepLast_length limit _)) (Nat.min_le_left _ _)

theorem finish_current (limit : Nat) (all : Succession α ε) :
    (all.finish limit).current = none := by
  unfold finish
  cases current : all.current with
  | none => exact current
  | some number => rfl

theorem finishWith_current (limit : Nat) (made : ε) (all : Succession α ε) :
    (all.finishWith apply limit made).current = none :=
  finish_current limit _

/-- Every object is in one place, and all are in the order in which they were begun. -/
def Ordered (all : Succession α ε) : Prop :=
  all.dropped ++ all.finished ++ all.current.toList = List.range all.objects.length

namespace Ordered

theorem begin (ordered : Ordered all) (idle : all.current = none) (value : α) :
    Ordered (all.begin value) := by
  unfold Ordered at ordered ⊢
  rw [idle, Option.toList_none, List.append_nil] at ordered
  change all.dropped ++ all.finished ++ [all.objects.length] =
    List.range (all.objects ++ [value]).length
  rw [ordered, List.length_append, List.length_singleton, List.range_succ]

theorem call (ordered : Ordered all) (number : Nat) (made : ε) :
    Ordered (all.call apply number made) := by
  unfold Ordered
  rw [call_length, call_current, call_finished]
  unfold Succession.call
  split
  · exact ordered
  · exact ordered

theorem callCurrent (ordered : Ordered all) (made : ε) :
    Ordered (all.callCurrent apply made) := by
  unfold Succession.callCurrent
  split
  · exact ordered
  · exact ordered.call _ made

theorem prune (ordered : Ordered all) (limit : Nat) : Ordered (all.prune limit) := by
  unfold Ordered at ordered ⊢
  change all.dropped ++ all.finished.take (all.finished.length - limit) ++
    all.finished.drop (all.finished.length - limit) ++ all.current.toList =
      List.range all.objects.length
  rw [← ordered, List.append_assoc all.dropped, List.take_append_drop]

theorem setAside (ordered : Ordered all) {number : Nat} (current : all.current = some number) :
    Ordered { all with finished := all.finished ++ [number], current := none } := by
  unfold Ordered at ordered ⊢
  rw [current] at ordered
  change all.dropped ++ (all.finished ++ [number]) ++ [] = List.range all.objects.length
  rw [List.append_nil, ← List.append_assoc]
  exact ordered

theorem finish (ordered : Ordered all) (limit : Nat) : Ordered (all.finish limit) := by
  unfold Succession.finish
  cases current : all.current with
  | none => exact ordered
  | some number => exact (ordered.setAside current).prune limit

theorem finishWith (ordered : Ordered all) (limit : Nat) (made : ε) :
    Ordered (all.finishWith apply limit made) :=
  (ordered.callCurrent made).finish limit

theorem clear (ordered : Ordered all) : Ordered all.clear := by
  unfold Ordered at ordered ⊢
  change all.dropped ++ all.finished ++ [] ++ all.current.toList = _
  rw [List.append_nil]
  exact ordered

theorem current_lt (ordered : Ordered all) {number : Nat} (current : all.current = some number) :
    number < all.objects.length := by
  apply List.mem_range.mp
  rw [← ordered, current]
  exact List.mem_append_right _ (List.mem_singleton_self number)

/-- What is finished is no longer current. -/
theorem past_iff (ordered : Ordered all) (number : Nat) :
    Past number all ↔ number ∈ all.dropped ++ all.finished := by
  have distinct : (all.dropped ++ all.finished ++ all.current.toList).Nodup :=
    ordered ▸ List.nodup_range
  constructor
  · rintro ⟨there, past⟩
    rw [← List.mem_range, ← ordered] at there
    rcases List.mem_append.mp there with done | current
    · exact done
    · exact absurd (Option.mem_toList.mp current) past
  · intro done
    refine ⟨?_, fun current => ?_⟩
    · rw [← List.mem_range, ← ordered]
      exact List.mem_append_left _ done
    · apply (List.nodup_append.mp distinct).2.2 number done number _ rfl
      exact Option.mem_toList.mpr current

end Ordered

/-- Every object is what its calls have made of it. -/
structure Recorded (apply : ε → α → α) (all : Succession α ε) : Prop where
  known : ∀ entry ∈ all.calls, entry.1 < all.objects.length
  length : all.begun.length = all.objects.length
  object : ∀ number : Nat, all.objects[number]? =
    (all.begun[number]?).map fun value =>
      (callsOf number all.calls).foldl (fun value made => apply made value) value

namespace Recorded

theorem begin (recorded : Recorded apply all) (value : α) :
    Recorded apply (all.begin value) where
  known entry member := by
    have before := recorded.known entry member
    change entry.1 < (all.objects ++ [value]).length
    rw [List.length_append]
    exact Nat.lt_add_right _ before
  length := by
    change (all.begun ++ [value]).length = (all.objects ++ [value]).length
    rw [List.length_append, List.length_append, recorded.length]
  object := by
    intro number
    change (all.objects ++ [value])[number]? = ((all.begun ++ [value])[number]?).map _
    have uncalled : callsOf all.objects.length all.calls = [] := by
      apply List.filterMap_eq_nil_iff.mpr
      intro entry member
      exact if_neg (Nat.ne_of_lt (recorded.known entry member))
    rcases Nat.lt_trichotomy number all.objects.length with before | rfl | beyond
    · rw [List.getElem?_append_left before,
        List.getElem?_append_left (recorded.length ▸ before), recorded.object]
      rfl
    · rw [List.getElem?_concat_length, ← recorded.length, List.getElem?_concat_length,
        recorded.length]
      change some value = some ((callsOf all.objects.length all.calls).foldl _ value)
      rw [uncalled]
      rfl
    · rw [List.getElem?_eq_none, List.getElem?_eq_none]
      · rfl
      · rw [List.length_append, recorded.length]
        exact beyond
      · rw [List.length_append]
        exact beyond

theorem call (recorded : Recorded apply all) (number : Nat) (made : ε) :
    Recorded apply (all.call apply number made) := by
  unfold Succession.call
  split
  · next there =>
      constructor
      · intro entry member
        change entry.1 < (all.objects.modify number (apply made)).length
        rw [List.length_modify]
        rcases List.mem_append.mp member with before | last
        · exact recorded.known entry before
        · rw [List.mem_singleton.mp last]
          exact there
      · change all.begun.length = (all.objects.modify number (apply made)).length
        rw [List.length_modify]
        exact recorded.length
      · intro other
        change (all.objects.modify number (apply made))[other]? = _
        rw [List.getElem?_modify, recorded.object, callsOf_append]
        by_cases same : number = other
        · subst same
          rw [callsOf_single]
          cases all.begun[number]? with
          | none => rfl
          | some value => simp
        · rw [callsOf_other same]
          cases all.begun[other]? with
          | none => rfl
          | some value => simp [same]
  · exact recorded

theorem callCurrent (recorded : Recorded apply all) (made : ε) :
    Recorded apply (all.callCurrent apply made) := by
  unfold Succession.callCurrent
  split
  · exact recorded
  · exact recorded.call _ made

theorem prune (recorded : Recorded apply all) (limit : Nat) :
    Recorded apply (all.prune limit) :=
  ⟨recorded.known, recorded.length, recorded.object⟩

theorem finish (recorded : Recorded apply all) (limit : Nat) :
    Recorded apply (all.finish limit) := by
  unfold Succession.finish
  split
  · exact recorded
  · exact ⟨recorded.known, recorded.length, recorded.object⟩

theorem finishWith (recorded : Recorded apply all) (limit : Nat) (made : ε) :
    Recorded apply (all.finishWith apply limit made) :=
  (recorded.callCurrent made).finish limit

theorem clear (recorded : Recorded apply all) : Recorded apply all.clear :=
  ⟨recorded.known, recorded.length, recorded.object⟩

end Recorded

/-- Every object that is no longer current has had a closing call. -/
def Closed (closes : ε → Prop) (all : Succession α ε) : Prop :=
  ∀ number, Past number all → ∃ made ∈ callsOf number all.calls, closes made

namespace Closed

theorem begin (closed : Closed closes all) (idle : all.current = none) (value : α) :
    Closed closes (all.begin value) := by
  intro number past
  have there : number < (all.objects ++ [value]).length := past.1
  have other : some all.objects.length ≠ some number := past.2
  rw [List.length_append, List.length_singleton] at there
  refine closed number ⟨?_, ?_⟩
  · have differs : all.objects.length ≠ number := fun same => other (congrArg some same)
    omega
  · rw [idle]
    exact nofun

theorem call (closed : Closed closes all) (number : Nat) (made : ε) :
    Closed closes (all.call apply number made) := by
  intro other past
  unfold Past at past
  rw [call_length, call_current] at past
  obtain ⟨closing, member, does⟩ := closed other past
  refine ⟨closing, ?_, does⟩
  unfold Succession.call
  split
  · change closing ∈ callsOf other (all.calls ++ [(number, made)])
    rw [callsOf_append]
    exact List.mem_append_left _ member
  · exact member

theorem callCurrent (closed : Closed closes all) (made : ε) :
    Closed closes (all.callCurrent apply made) := by
  unfold Succession.callCurrent
  split
  · exact closed
  · exact closed.call _ made

theorem finishWith (closed : Closed closes all) (ordered : Ordered all) (limit : Nat)
    {made : ε} (does : closes made) : Closed closes (all.finishWith apply limit made) := by
  intro number past
  unfold Succession.finishWith at past ⊢
  cases current : all.current with
  | none =>
      have same : all.callCurrent apply made = all := by
        unfold Succession.callCurrent
        rw [current]
      rw [same] at past ⊢
      unfold Succession.finish at past ⊢
      rw [current] at past ⊢
      exact closed number past
  | some last =>
      have there := ordered.current_lt current
      have made_eq := @callCurrent_of_some _ _ apply _ _ current made
      have calls : ((all.call apply last made).finish limit).calls =
          all.calls ++ [(last, made)] := by
        unfold Succession.finish
        rw [call_current, current]
        unfold Succession.call
        rw [if_pos there]
        rfl
      rw [made_eq, calls, callsOf_append]
      by_cases same : last = number
      · subst same
        refine ⟨made, ?_, does⟩
        rw [callsOf_single]
        exact List.mem_append_right _ (List.mem_singleton_self made)
      · have before : Past number all := by
          refine ⟨?_, fun now => same (Option.some.inj (current.symm.trans now))⟩
          have still := past.1
          rw [made_eq] at still
          unfold Succession.finish at still
          rw [call_current, current] at still
          change number < (all.call apply last made).objects.length at still
          rwa [call_length] at still
        obtain ⟨closing, member, closed⟩ := closed number before
        exact ⟨closing, List.mem_append_left _ member, closed⟩

end Closed

/-- A past object that was not called. -/
structure Leaves (number : Nat) (before after : Succession α ε) : Prop where
  same : after.objects[number]? = before.objects[number]?
  past : Past number after

namespace Leaves

variable {number : Nat} {before middle after : Succession α ε}

theorem refl (past : Past number all) : Leaves number all all := ⟨rfl, past⟩

theorem trans (first : Leaves number before middle)
    (second : Past number middle → Leaves number middle after) : Leaves number before after :=
  ⟨(second first.past).same.trans first.same, (second first.past).past⟩

theorem begin (past : Past number all) (value : α) : Leaves number all (all.begin value) where
  same := List.getElem?_append_left past.1
  past := by
    refine ⟨?_, fun now => ?_⟩
    · change number < (all.objects ++ [value]).length
      rw [List.length_append]
      exact Nat.lt_add_right _ past.1
    · exact Nat.ne_of_lt past.1 (Option.some.inj now).symm

theorem call (past : Past number all) {called : Nat} (other : called ≠ number) (made : ε) :
    Leaves number all (all.call apply called made) where
  same := by
    unfold Succession.call
    split
    · exact (List.getElem?_modify _ _ _ _).trans (by simp [other])
    · rfl
  past := by
    unfold Past
    rw [call_length, call_current]
    exact past

theorem callCurrent (past : Past number all) (made : ε) :
    Leaves number all (all.callCurrent apply made) := by
  unfold Succession.callCurrent
  split
  · exact refl past
  · next called current =>
      exact call past (fun same => past.2 (current.trans (congrArg some same))) made

theorem finish (past : Past number all) (limit : Nat) :
    Leaves number all (all.finish limit) where
  same := by rw [finish_objects]
  past := by
    unfold Past
    rw [finish_objects, finish_current]
    exact ⟨past.1, nofun⟩

theorem finishWith (past : Past number all) (limit : Nat) (made : ε) :
    Leaves number all (all.finishWith apply limit made) :=
  (callCurrent past made).trans fun past => finish past limit

end Leaves

theorem currentObject_callCurrent (made : ε) (all : Succession α ε) :
    (all.callCurrent apply made).currentObject = all.currentObject.map (apply made) := by
  unfold currentObject
  rw [callCurrent_current]
  cases current : all.current with
  | none => rfl
  | some number =>
      rw [callCurrent_of_some current, Option.bind_some, Option.bind_some]
      unfold call
      split
      · change (all.objects.modify number (apply made))[number]? = _
        rw [List.getElem?_modify]
        simp
      · next beyond =>
          rw [List.getElem?_eq_none (Nat.not_lt.mp beyond)]
          rfl

theorem Ordered.current_none (ordered : Ordered all) (nothing : all.currentObject = none) :
    all.current = none := by
  unfold currentObject at nothing
  cases current : all.current with
  | none => rfl
  | some number =>
      have there := ordered.current_lt current
      rw [current, Option.bind_some, List.getElem?_eq_getElem there] at nothing
      cases nothing

theorem currentObject_begin (value : α) (all : Succession α ε) :
    (all.begin value).currentObject = some value := by
  unfold currentObject begin
  rw [Option.bind_some]
  exact List.getElem?_concat_length

theorem finishedObjects_begin (ordered : Ordered all) (value : α) :
    (all.begin value).finishedObjects = all.finishedObjects := by
  apply List.filterMap_congr
  intro number member
  exact (Leaves.begin
    ((ordered.past_iff number).mpr (List.mem_append_right _ member)) value).same

theorem finishedObjects_callCurrent (ordered : Ordered all) (made : ε) :
    (all.callCurrent apply made).finishedObjects = all.finishedObjects := by
  unfold finishedObjects
  rw [callCurrent_finished]
  apply List.filterMap_congr
  intro number member
  exact (Leaves.callCurrent
    ((ordered.past_iff number).mpr (List.mem_append_right _ member)) made).same

theorem length_filterMap_of_isSome {f : Nat → Option α} {numbers : List Nat}
    (defined : ∀ number ∈ numbers, (f number).isSome) :
    (numbers.filterMap f).length = numbers.length := by
  induction numbers with
  | nil => rfl
  | cons number numbers ih =>
      obtain ⟨value, found⟩ := Option.isSome_iff_exists.mp (defined number List.mem_cons_self)
      rw [List.filterMap_cons_some found, List.length_cons, List.length_cons,
        ih fun other member => defined other (List.mem_cons_of_mem number member)]

theorem filterMap_drop_of_isSome {f : Nat → Option α} {numbers : List Nat}
    (defined : ∀ number ∈ numbers, (f number).isSome) (count : Nat) :
    (numbers.drop count).filterMap f = (numbers.filterMap f).drop count := by
  induction numbers generalizing count with
  | nil => simp
  | cons number numbers ih =>
      obtain ⟨value, found⟩ := Option.isSome_iff_exists.mp (defined number List.mem_cons_self)
      cases count with
      | zero => rfl
      | succ count =>
          rw [List.filterMap_cons_some found, List.drop_succ_cons, List.drop_succ_cons]
          exact ih (fun other member => defined other (List.mem_cons_of_mem number member))
            count

theorem finishedObjects_prune (ordered : Ordered all) (limit : Nat) :
    (all.prune limit).finishedObjects = keepLast limit all.finishedObjects := by
  have defined : ∀ number ∈ all.finished, (all.objects[number]?).isSome := by
    intro number member
    have past := (ordered.past_iff number).mpr (List.mem_append_right _ member)
    simp [past.1]
  unfold keepLast finishedObjects
  rw [length_filterMap_of_isSome defined, ← filterMap_drop_of_isSome defined]
  rfl

theorem finishedObjects_finish (ordered : Ordered all) (limit : Nat) {value : α}
    (current : all.currentObject = some value) :
    (all.finish limit).finishedObjects = keepLast limit (all.finishedObjects ++ [value]) := by
  obtain ⟨number, here, found⟩ := Option.bind_eq_some_iff.mp current
  unfold finish
  rw [here]
  change Succession.finishedObjects (prune limit _) = _
  rw [finishedObjects_prune (ordered.setAside here)]
  congr 1
  change (all.finished ++ [number]).filterMap (fun number => all.objects[number]?) = _
  rw [List.filterMap_append]
  congr 1
  rw [List.filterMap_cons_some found]
  rfl

end Succession

end Foundations

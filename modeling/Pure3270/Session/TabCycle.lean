import Pure3270.Foundations.CyclicSuccessor
import Pure3270.Session.BackTabbing

/-!
# Going round the input fields

Tab after tab the cursor goes round the unprotected fields of the screen, in the order of
the screen, from wherever it stands.
-/

namespace Pure3270

open Foundations

namespace ScreenBuffer

/-- The unprotected fields. -/
def unprotectedFields (screen : ScreenBuffer) : List Field :=
  screen.fields.filter fun field => !field.isProtected

/-- Where the cursor stands after the first, the second and all further tabs. -/
def tabStops : Nat → ScreenBuffer → List (Nat × Nat)
  | 0, _ => []
  | times + 1, screen =>
      screen.moveCursorToNextInputField.getPosition ::
        tabStops times screen.moveCursorToNextInputField

/-- Tabs go to the unprotected field behind the cursor that is the first of them, else to
the first one of all, and so round all of them. -/
structure TabsRound (screen : ScreenBuffer) : Prop where
  behind : (∃ field ∈ screen.unprotectedFields,
      screen.cursorAddress < field.startIndex screen.cols) →
    ∃ next ∈ screen.unprotectedFields,
      screen.moveCursorToNextInputField = screen.moveCursorTo next.start ∧
      screen.cursorAddress < next.startIndex screen.cols ∧
      ∀ other ∈ screen.unprotectedFields,
        screen.cursorAddress < other.startIndex screen.cols →
          next.startIndex screen.cols ≤ other.startIndex screen.cols
  wraps : screen.unprotectedFields ≠ [] →
    (∀ field ∈ screen.unprotectedFields,
      field.startIndex screen.cols ≤ screen.cursorAddress) →
    ∃ first ∈ screen.unprotectedFields,
      screen.moveCursorToNextInputField = screen.moveCursorTo first.start ∧
      ∀ other ∈ screen.unprotectedFields,
        first.startIndex screen.cols ≤ other.startIndex screen.cols
  inOrder : screen.unprotectedFields.Pairwise fun left right =>
    left.startIndex screen.cols < right.startIndex screen.cols
  round : ∃ first, screen.tabStops screen.unprotectedFields.length =
    (screen.unprotectedFields.map (·.start)).rotate first
  once : (screen.tabStops screen.unprotectedFields.length).Nodup
  stays : screen.unprotectedFields = [] →
    ∀ times, moveCursorToNextInputField^[times] screen = screen

variable {screen : ScreenBuffer}

theorem FieldsDetected.ordered (valid : screen.Valid) (detected : screen.FieldsDetected) :
    screen.fields.Pairwise fun left right =>
      left.startIndex screen.cols < right.startIndex screen.cols := by
  refine List.pairwise_iff_getElem.mpr fun earlier later below inside before => ?_
  exact startIndex_lt_of_lt valid detected before (List.getElem?_eq_getElem below)
    (List.getElem?_eq_getElem inside)

section Ordered

variable (noAscii : screen.asciiFields = [])
  (ordered : screen.fields.Pairwise fun left right =>
    left.startIndex screen.cols < right.startIndex screen.cols)

include ordered in
theorem unprotectedFields_ordered :
    screen.unprotectedFields.Pairwise fun left right =>
      left.startIndex screen.cols < right.startIndex screen.cols :=
  ordered.filter _

include noAscii ordered in
theorem nextInputPosition_eq_cyclicNext :
    screen.nextInputPosition =
      (cyclicNext (·.startIndex screen.cols) screen.unprotectedFields
        screen.cursorAddress).map (·.start) := by
  have noSorted : screen.sortedAsciiFields = [] := by
    unfold sortedAsciiFields
    rw [noAscii]
    rfl
  have sorted : sortByStart screen.cols screen.fields = screen.fields :=
    List.Pairwise.insertionSort_eq (ordered.imp fun below => Nat.le_of_lt below)
  rw [nextInputPosition_eq]
  unfold positionBehind firstPosition cyclicNext unprotectedFields
  rw [noSorted, sorted, List.find?_nil, List.find?_nil, Option.or_none, Option.or_none,
    List.find?_filter, List.head?_filter, Option.map_or]
  simp only [Bool.decide_and, Bool.decide_eq_true]

include noAscii ordered in
theorem moveCursorToNextInputField_of_some {field : Field}
    (next : cyclicNext (·.startIndex screen.cols) screen.unprotectedFields
      screen.cursorAddress = some field) :
    screen.moveCursorToNextInputField = screen.moveCursorTo field.start := by
  unfold moveCursorToNextInputField
  rw [nextInputPosition_eq_cyclicNext noAscii ordered, next]
  rfl

include noAscii ordered in
/-- Without an unprotected field there is nowhere to go. -/
theorem moveCursorToNextInputField_of_nil (none : screen.unprotectedFields = []) :
    screen.moveCursorToNextInputField = screen := by
  unfold moveCursorToNextInputField
  rw [nextInputPosition_eq_cyclicNext noAscii ordered, none]
  rfl

include noAscii ordered in
theorem tabStops_eq (some : screen.unprotectedFields ≠ []) (times : Nat) :
    screen.tabStops times =
      (cyclicWalk (·.startIndex screen.cols) screen.unprotectedFields times
        screen.cursorAddress).map (·.start) := by
  induction times generalizing screen with
  | zero => rfl
  | succ times ih =>
      obtain ⟨first, firstField⟩ := Option.ne_none_iff_exists'.mp
        (mt List.head?_eq_none_iff.mp some)
      rw [tabStops, cyclicWalk]
      cases next : cyclicNext (·.startIndex screen.cols) screen.unprotectedFields
          screen.cursorAddress with
      | none =>
          unfold cyclicNext at next
          rw [firstField, Option.or_eq_none_iff] at next
          cases next.2
      | some field =>
          rw [moveCursorToNextInputField_of_some noAscii ordered next]
          exact congrArg (field.start :: ·)
            (@ih (screen.moveCursorTo field.start) noAscii ordered some)

include noAscii ordered in
theorem exists_round :
    ∃ first, screen.tabStops screen.unprotectedFields.length =
      (screen.unprotectedFields.map (·.start)).rotate first := by
  by_cases some : screen.unprotectedFields = []
  · refine ⟨0, ?_⟩
    rw [some]
    rfl
  · refine ⟨upTo (·.startIndex screen.cols) screen.unprotectedFields screen.cursorAddress, ?_⟩
    rw [tabStops_eq noAscii ordered some, cyclicWalk_round (unprotectedFields_ordered ordered),
      List.map_rotate]

include ordered in
theorem starts_nodup : (screen.unprotectedFields.map (·.start)).Nodup := by
  refine List.pairwise_map.mpr ((unprotectedFields_ordered ordered).imp ?_)
  intro left right below same
  unfold Field.startIndex at below
  rw [same] at below
  exact Nat.lt_irrefl _ below

include noAscii ordered in
/-- From any place of the cursor tabs go round the unprotected fields. -/
theorem tabsRound_of_ordered : screen.TabsRound where
  behind later := by
    obtain ⟨next, member, found, behind, least⟩ := exists_cyclicNext_behind
      (unprotectedFields_ordered ordered) later
    exact ⟨next, member, moveCursorToNextInputField_of_some noAscii ordered found, behind,
      least⟩
  wraps some nothing := by
    obtain ⟨first, member, found, least⟩ := exists_cyclicNext_first
      (unprotectedFields_ordered ordered) some nothing
    exact ⟨first, member, moveCursorToNextInputField_of_some noAscii ordered found, least⟩
  inOrder := unprotectedFields_ordered ordered
  round := exists_round noAscii ordered
  once := by
    obtain ⟨first, round⟩ := exists_round noAscii ordered
    rw [round]
    exact List.nodup_rotate.mpr (starts_nodup ordered)
  stays none times :=
    Function.iterate_fixed (moveCursorToNextInputField_of_nil noAscii ordered none) times

end Ordered

/-- Tabs go round the unprotected fields of every screen with detected fields. -/
theorem tabsRound (valid : screen.Valid) (detected : screen.FieldsDetected)
    (noAscii : screen.asciiFields = []) : screen.TabsRound :=
  tabsRound_of_ordered noAscii (detected.ordered valid)

/-- Of three fields the one in the middle is protected. -/
theorem tabsRound_threeFields :
    (AsyncSession.threeFields 0 1 0x60).screenBuffer.TabsRound :=
  tabsRound (AsyncSession.threeFields_valid 0 1 0x60) (fieldsDetected_detectFields _) rfl

example : (AsyncSession.threeFields 0 1 0x60).screenBuffer.tabStops 3 =
    [(1, 1), (0, 0), (1, 1)] := by decide +kernel

end ScreenBuffer

end Pure3270

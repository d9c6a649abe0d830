import Pure3270.Emulation.FieldLayout
import Pure3270.Protocol.ParserSafety
import Pure3270.Session.ClientCursor

/-!
# Tabbing forward and back

Tab goes to the next unprotected field and over the end of the screen to the first one.
BackTab goes to the field before that of the cursor, whatever it is, and no further than to
the first one.
-/

namespace Pure3270

namespace ScreenBuffer

/-- The fields follow each other as detection leaves them, and the cache finds what a scan
finds. -/
structure FieldsDetected (screen : ScreenBuffer) : Prop where
  apart : screen.fields.Pairwise fun left right =>
    left.endIndex screen.cols < right.startIndex screen.cols
  cached : screen.navigationCacheValid = true →
    ∀ pos field, screen.fieldPositionCache pos = some field →
      screen.fields.find? (containsIndex screen.cols pos) = some field

theorem fieldsDetected_detectFields (screen : ScreenBuffer) :
    screen.detectFields.FieldsDetected where
  apart := screen.detectedFields_apart
  cached _ pos _ cached := (screen.detectFields_cache pos).symm.trans cached

/-- The field of the list is unprotected. -/
def InputAt (index : Nat) (screen : ScreenBuffer) : Prop :=
  ∃ field, screen.fields[index]? = some field ∧ field.isProtected = false

/-- The cursor stands on the start of the field. -/
def StandsAt (index : Nat) (screen : ScreenBuffer) : Prop :=
  ∃ field, screen.fields[index]? = some field ∧ field.start = screen.getPosition

/-- The first unprotected field behind another one, or the first one of all if there is
none. -/
def IsNext (index next : Nat) (screen : ScreenBuffer) : Prop :=
  screen.InputAt next ∧
    ((index < next ∧ ∀ between, index < between → between < next →
        ¬ screen.InputAt between) ∨
      (next ≤ index ∧ (∀ behind, index < behind → ¬ screen.InputAt behind) ∧
        ∀ before, before < next → ¬ screen.InputAt before))

variable {screen : ScreenBuffer} {index other next : Nat} {field : Field}

theorem setPosition_eq {row col : Nat} (rowInside : row < screen.rows)
    (colInside : col < screen.cols) :
    screen.setPosition row col = screen.moveCursorTo (row, col) := by
  unfold setPosition moveCursorTo
  rw [Nat.min_eq_right (Nat.le_sub_one_of_lt rowInside),
    Nat.min_eq_right (Nat.le_sub_one_of_lt colInside)]

section Detected

variable (valid : screen.Valid) (detected : screen.FieldsDetected)

include valid detected in
/-- Fields further back start further back. -/
theorem startIndex_lt_of_lt {left right : Field} (ordered : index < other)
    (first : screen.fields[index]? = some left) (second : screen.fields[other]? = some right) :
    left.startIndex screen.cols < right.startIndex screen.cols := by
  obtain ⟨below, rfl⟩ := List.getElem?_eq_some_iff.mp first
  obtain ⟨inside, rfl⟩ := List.getElem?_eq_some_iff.mp second
  have apart := List.pairwise_iff_getElem.mp detected.apart index other below inside ordered
  have within := Field.startIndex_le_endIndex
    (valid.fields_inBounds _ (List.getElem_mem below))
  omega

include valid detected in
/-- A start belongs to one field. -/
theorem StandsAt.unique (stands : screen.StandsAt index) (again : screen.StandsAt other) :
    index = other := by
  obtain ⟨left, first, home⟩ := stands
  obtain ⟨right, second, same⟩ := again
  have starts : left.startIndex screen.cols = right.startIndex screen.cols := by
    unfold Field.startIndex
    rw [home, same]
  rcases Nat.lt_trichotomy index other with below | equal | above
  · have ordered := startIndex_lt_of_lt valid detected below first second
    omega
  · exact equal
  · have ordered := startIndex_lt_of_lt valid detected above second first
    omega

include valid detected in
theorem StandsAt.lookup (stands : screen.StandsAt index) :
    ∃ field, screen.fields[index]? = some field ∧
      screen.getFieldAtPosition screen.cursorRow screen.cursorCol = some field ∧
      screen.fields.findIdx? (isObject field) = some index := by
  obtain ⟨field, found, home⟩ := stands
  have cursor : field.startIndex screen.cols =
      screen.cursorRow * screen.cols + screen.cursorCol := by
    unfold Field.startIndex
    rw [home]
    rfl
  obtain ⟨below, rfl⟩ := List.getElem?_eq_some_iff.mp found
  have within := Field.startIndex_le_endIndex
    (valid.fields_inBounds _ (List.getElem_mem below))
  have scan : screen.fields.find? (containsIndex screen.cols
      (screen.cursorRow * screen.cols + screen.cursorCol)) = some screen.fields[index] := by
    refine List.find?_eq_some_iff_getElem.mpr
      ⟨containsIndex_iff.mpr (by omega), index, below, rfl, fun earlier ordered => ?_⟩
    have apart := List.pairwise_iff_getElem.mp detected.apart earlier index
      (Nat.lt_trans ordered below) below ordered
    rw [Bool.not_eq_true', Bool.eq_false_iff, ne_eq, containsIndex_iff]
    omega
  refine ⟨_, found, ?_, List.findIdx?_eq_some_iff_getElem.mpr
    ⟨below, by simp [isObject], fun earlier ordered same => ?_⟩⟩
  · unfold getFieldAtPosition
    rw [if_pos ⟨valid.cursorRow_lt, valid.cursorCol_lt⟩]
    dsimp only
    by_cases current : screen.navigationCacheValid = true
    · rw [if_pos current]
      cases cached : screen.fieldPositionCache
          (screen.cursorRow * screen.cols + screen.cursorCol) with
      | none => exact scan
      | some hit => exact (detected.cached current _ hit cached).symm.trans scan
    · rw [if_neg current]
      exact scan
  · have first := List.getElem?_eq_getElem (Nat.lt_trans ordered below)
    have starts := startIndex_lt_of_lt valid detected ordered first found
    unfold isObject at same
    simp only [Bool.and_eq_true, decide_eq_true_eq] at same
    unfold Field.startIndex at starts
    rw [same.1.1] at starts
    exact absurd starts (Nat.lt_irrefl _)

include valid detected in
/-- BackTab goes to the field before; from the first one it goes nowhere. -/
theorem StandsAt.backtab (stands : screen.StandsAt index) :
    ∃ position, screen.goToStart screen.previousField = screen.moveCursorTo position ∧
      (screen.moveCursorTo position).StandsAt (index - 1) := by
  obtain ⟨field, found, here, listed⟩ := stands.lookup valid detected
  unfold previousField
  rw [here]
  dsimp only
  rw [listed]
  cases index with
  | zero => exact ⟨screen.getPosition, rfl, stands⟩
  | succ earlier =>
      have below := (List.getElem?_eq_some_iff.mp found).1
      have before := List.getElem?_eq_getElem (Nat.lt_of_succ_lt below)
      have inside := (valid.fields_inBounds _ (List.mem_of_getElem? before)).1
      dsimp only
      rw [before]
      exact ⟨_, setPosition_eq inside.1 inside.2, _, before, rfl⟩

include valid detected in
/-- A search through the fields in the order of their starts. -/
theorem find?_sortByStart {test : Field → Bool}
    (found : (sortByStart screen.cols screen.fields).find? test = some field) :
    ∃ index, screen.fields[index]? = some field ∧ test field = true ∧
      ∀ (earlier : Nat) (before : Field), earlier < index →
        screen.fields[earlier]? = some before → test before = false := by
  have sorted : sortByStart screen.cols screen.fields = screen.fields := by
    refine List.Pairwise.insertionSort_eq (List.pairwise_iff_getElem.mpr ?_)
    intro earlier later below inside ordered
    exact Nat.le_of_lt (startIndex_lt_of_lt valid detected ordered
      (List.getElem?_eq_getElem below) (List.getElem?_eq_getElem inside))
  rw [sorted] at found
  obtain ⟨passes, index, below, rfl, first⟩ := List.find?_eq_some_iff_getElem.mp found
  refine ⟨index, List.getElem?_eq_getElem below, passes, fun earlier before ordered here => ?_⟩
  obtain ⟨_, rfl⟩ := List.getElem?_eq_some_iff.mp here
  exact (Bool.not_eq_true' _).mp (first earlier ordered)

include valid detected in
theorem StandsAt.cursor_lt_iff (stands : screen.StandsAt index)
    (found : screen.fields[other]? = some field) :
    screen.cursorAddress < field.startIndex screen.cols ↔ index < other := by
  obtain ⟨current, here, home⟩ := stands
  have cursor : screen.cursorAddress = current.startIndex screen.cols := by
    unfold Field.startIndex cursorAddress
    rw [home]
    rfl
  rw [cursor]
  rcases Nat.lt_trichotomy index other with below | equal | above
  · exact iff_of_true (startIndex_lt_of_lt valid detected below here found) below
  · subst equal
    rw [here] at found
    cases found
    exact iff_of_false (Nat.lt_irrefl _) (Nat.lt_irrefl _)
  · have ordered := startIndex_lt_of_lt valid detected above found here
    exact iff_of_false (by omega) (by omega)

include valid detected in
theorem StandsAt.tab (noAscii : screen.asciiFields = []) (stands : screen.StandsAt index)
    (input : screen.InputAt other) :
    ∃ position next, screen.moveCursorToNextInputField = screen.moveCursorTo position ∧
      screen.IsNext index next ∧ (screen.moveCursorTo position).StandsAt next := by
  have noSorted : screen.sortedAsciiFields = [] := by
    unfold sortedAsciiFields
    rw [noAscii]
    rfl
  obtain ⟨next, goal, nextFound, target, isNext⟩ : ∃ next goal,
      screen.fields[next]? = some goal ∧ screen.nextInputPosition = some goal.start ∧
        screen.IsNext index next := by
    rw [nextInputPosition_eq]
    unfold positionBehind firstPosition
    rw [noSorted, List.find?_nil, List.find?_nil, Option.or_none, Option.or_none]
    cases nextField : (sortByStart screen.cols screen.fields).find? fun field =>
        !field.isProtected && screen.cursorAddress < field.startIndex screen.cols with
    | some goal =>
        obtain ⟨next, found, passes, first⟩ := find?_sortByStart valid detected nextField
        rw [Bool.and_eq_true, Bool.not_eq_true', decide_eq_true_eq,
          stands.cursor_lt_iff valid detected found] at passes
        refine ⟨next, goal, found, rfl, ⟨goal, found, passes.1⟩, .inl ⟨passes.2, ?_⟩⟩
        rintro between later earlier ⟨field, here, free⟩
        have refused := first between field earlier here
        rw [free, decide_eq_true ((stands.cursor_lt_iff valid detected here).mpr later)]
          at refused
        cases refused
    | none =>
        have nothing : ∀ behind, index < behind → ¬ screen.InputAt behind := by
          rintro behind later ⟨field, here, free⟩
          have refused := List.find?_eq_none.mp nextField field
            (mem_sortByStart.mpr (List.mem_of_getElem? here))
          rw [free, decide_eq_true ((stands.cursor_lt_iff valid detected here).mpr later)]
            at refused
          exact refused rfl
        rw [Option.map_none, Option.none_or]
        cases firstField : (sortByStart screen.cols screen.fields).find? fun field =>
            !field.isProtected with
        | some goal =>
            obtain ⟨next, found, passes, first⟩ := find?_sortByStart valid detected firstField
            have free : screen.InputAt next := ⟨goal, found, (Bool.not_eq_true' _).mp passes⟩
            refine ⟨next, goal, found, rfl, free, .inr ⟨?_, nothing, ?_⟩⟩
            · by_contra later
              exact nothing next (Nat.lt_of_not_le later) free
            · rintro before earlier ⟨field, here, free⟩
              have refused := first before field earlier here
              rw [free] at refused
              cases refused
        | none =>
            obtain ⟨field, here, free⟩ := input
            have refused := List.find?_eq_none.mp firstField field
              (mem_sortByStart.mpr (List.mem_of_getElem? here))
            rw [free] at refused
            exact absurd rfl refused
  refine ⟨goal.start, next, ?_, isNext, goal, nextFound, rfl⟩
  unfold moveCursorToNextInputField
  rw [target]

end Detected

/-- Moving the cursor leaves the fields alone. -/
theorem FieldsDetected.moveCursorTo (detected : screen.FieldsDetected) (position : Nat × Nat) :
    (screen.moveCursorTo position).FieldsDetected :=
  ⟨detected.apart, detected.cached⟩

theorem StandsAt.valid (valid : screen.Valid) {position : Nat × Nat}
    (stands : (screen.moveCursorTo position).StandsAt index) :
    (screen.moveCursorTo position).Valid := by
  obtain ⟨field, found, home⟩ := stands
  have inside := (valid.fields_inBounds field (List.mem_of_getElem? found)).1
  rw [home] at inside
  exact valid.moveCursorTo inside.1 inside.2

theorem StandsAt.back_iff (valid : screen.Valid) (detected : screen.FieldsDetected)
    (stands : screen.StandsAt index) {position : Nat × Nat}
    (moved : (screen.moveCursorTo position).StandsAt other) :
    (screen.moveCursorTo position).getPosition = screen.getPosition ↔ other = index := by
  obtain ⟨field, found, home⟩ := moved
  constructor
  · intro same
    have again : screen.StandsAt other := ⟨field, found, home.trans same⟩
    exact again.unique valid detected stands
  · rintro rfl
    obtain ⟨current, here, start⟩ := stands
    cases here.symm.trans found
    exact home.symm.trans start

theorem IsNext.unique (first : screen.IsNext index next) (second : screen.IsNext index other) :
    next = other := by
  obtain ⟨firstInput, firstPlace⟩ := first
  obtain ⟨secondInput, secondPlace⟩ := second
  rcases firstPlace with ⟨after, between⟩ | ⟨upTo, behind, before⟩
  · rcases secondPlace with ⟨otherAfter, otherBetween⟩ | ⟨_, nothing, _⟩
    · rcases Nat.lt_trichotomy next other with below | equal | above
      · exact absurd firstInput (otherBetween next after below)
      · exact equal
      · exact absurd secondInput (between other otherAfter above)
    · exact absurd firstInput (nothing next after)
  · rcases secondPlace with ⟨otherAfter, _⟩ | ⟨_, _, otherBefore⟩
    · exact absurd secondInput (behind other otherAfter)
    · rcases Nat.lt_trichotomy next other with below | equal | above
      · exact absurd firstInput (otherBefore next below)
      · exact equal
      · exact absurd secondInput (before other above)

/-- The next field of this one has it before it, and it is the next of the one before it,
if all three are unprotected, or if it is the only unprotected one and the first. -/
theorem IsNext.returns_iff {later : Nat} (isNext : screen.IsNext index next)
    (input : screen.InputAt index) (isLater : screen.IsNext (index - 1) later) :
    (next - 1 = index ∧ later = index ∧ screen.InputAt (index - 1)) ↔
      (index = 0 ∧ ∀ other, 0 < other → ¬ screen.InputAt other) ∨
        (0 < index ∧ screen.InputAt (index - 1) ∧ screen.InputAt (index + 1)) := by
  constructor
  · rintro ⟨same, rfl, previous⟩
    rcases Nat.eq_zero_or_pos later with rfl | positive
    · rcases isLater.2 with ⟨behind, _⟩ | ⟨_, nothing, _⟩
      · exact absurd behind (Nat.lt_irrefl 0)
      · exact .inl ⟨rfl, nothing⟩
    · have following : next = later + 1 := by omega
      exact .inr ⟨positive, previous, following ▸ isNext.1⟩
  · rintro (⟨rfl, alone⟩ | ⟨positive, previous, following⟩)
    · have only : ∀ {other}, screen.InputAt other → other = 0 := by
        intro other free
        by_contra behind
        exact alone other (Nat.pos_of_ne_zero behind) free
      rw [only isNext.1]
      exact ⟨rfl, only isLater.1, input⟩
    · have after : screen.IsNext index (index + 1) :=
        ⟨following, .inl ⟨Nat.lt_succ_self index, fun between _ _ => by omega⟩⟩
      have again : screen.IsNext (index - 1) index :=
        ⟨input, .inl ⟨by omega, fun between _ _ => by omega⟩⟩
      rw [isNext.unique after]
      exact ⟨Nat.add_sub_cancel index 1, IsNext.unique isLater again, previous⟩

end ScreenBuffer

namespace AsyncSession

open ScreenBuffer

/-- Tab and BackTab undo each other from here, and BackTab goes to no protected field. -/
structure TabsUndo (session : AsyncSession) : Prop where
  tabFirst : session.tab.backtab.screenBuffer.getPosition = session.screenBuffer.getPosition
  backTabFirst :
    session.backtab.tab.screenBuffer.getPosition = session.screenBuffer.getPosition
  unprotected : ∀ field, session.backtab.screenBuffer.getFieldAtPosition
      session.backtab.screenBuffer.cursorRow session.backtab.screenBuffer.cursorCol =
        some field → field.isProtected = false

/-- When they do. -/
theorem tabsUndo_iff {session : AsyncSession} (valid : session.screenBuffer.Valid)
    (detected : session.screenBuffer.FieldsDetected)
    (noAscii : session.screenBuffer.asciiFields = []) {index : Nat}
    (stands : session.screenBuffer.StandsAt index)
    (input : session.screenBuffer.InputAt index) :
    session.TabsUndo ↔
      (index = 0 ∧ ∀ other, 0 < other → ¬ session.screenBuffer.InputAt other) ∨
        (0 < index ∧ session.screenBuffer.InputAt (index - 1) ∧
          session.screenBuffer.InputAt (index + 1)) := by
  obtain ⟨forward, next, tabbed, isNext, atNext⟩ :=
    stands.tab valid detected noAscii input
  obtain ⟨_, returned, atReturn⟩ := atNext.backtab (atNext.valid valid)
    (detected.moveCursorTo forward)
  obtain ⟨back, backed, atPrevious⟩ := stands.backtab valid detected
  have validBack := atPrevious.valid valid
  have detectedBack := detected.moveCursorTo back
  obtain ⟨_, later, tabbedAgain, isLater, atLater⟩ :=
    atPrevious.tab validBack detectedBack noAscii input
  have undone : session.tab.backtab.screenBuffer.getPosition =
      session.screenBuffer.getPosition ↔ next - 1 = index := by
    rw [← stands.back_iff valid detected atReturn]
    show (ScreenBuffer.goToStart session.screenBuffer.moveCursorToNextInputField.previousField
      session.screenBuffer.moveCursorToNextInputField).getPosition = _ ↔ _
    rw [tabbed, returned]
    rfl
  have undoneBack : session.backtab.tab.screenBuffer.getPosition =
      session.screenBuffer.getPosition ↔ later = index := by
    rw [← stands.back_iff valid detected atLater]
    show (ScreenBuffer.moveCursorToNextInputField
      (session.screenBuffer.goToStart session.screenBuffer.previousField)).getPosition = _ ↔ _
    rw [backed, tabbedAgain]
    rfl
  have allowed : (∀ field, session.backtab.screenBuffer.getFieldAtPosition
      session.backtab.screenBuffer.cursorRow session.backtab.screenBuffer.cursorCol =
        some field → field.isProtected = false) ↔
      session.screenBuffer.InputAt (index - 1) := by
    obtain ⟨field, found, here, _⟩ := atPrevious.lookup validBack detectedBack
    have moved : session.backtab.screenBuffer = session.screenBuffer.moveCursorTo back := backed
    rw [moved, here]
    constructor
    · exact fun free => ⟨field, found, free field rfl⟩
    · rintro ⟨other, same, free⟩ _ shown
      cases shown
      cases found.symm.trans same
      exact free
  have parts : session.TabsUndo ↔
      next - 1 = index ∧ later = index ∧ session.screenBuffer.InputAt (index - 1) := by
    rw [← undone, ← undoneBack, ← allowed]
    exact ⟨fun undo => ⟨undo.tabFirst, undo.backTabFirst, undo.unprotected⟩,
      fun all => ⟨all.1, all.2.1, all.2.2⟩⟩
  rw [parts]
  exact isNext.returns_iff input isLater

/-- Three fields on a small screen, with the cursor on the start of one of them. -/
def threeFields (row col : Nat) (middle : UInt8) : AsyncSession where
  screenBuffer :=
    ((((DataStreamParser.smallParser row col).screen.setAttribute 0x00 (some (0, 0))).setAttribute
      middle (some (0, 2))).setAttribute 0x00 (some (1, 1))).detectFields
  insertMode := false
  circumventProtection := false

theorem threeFields_valid (row col : Nat) (middle : UInt8) :
    (threeFields row col middle).screenBuffer.Valid :=
  ((((DataStreamParser.smallParser_valid row col).setAttribute 0x00 _).setAttribute middle
    _).setAttribute 0x00 _).detectFields

/-- From the second of three unprotected fields. -/
theorem tabsUndo_middle : (threeFields 0 2 0x00).TabsUndo := by
  have first : (threeFields 0 2 0x00).screenBuffer.InputAt 0 := ⟨_, rfl, by decide +kernel⟩
  have second : (threeFields 0 2 0x00).screenBuffer.InputAt 1 := ⟨_, rfl, by decide +kernel⟩
  have third : (threeFields 0 2 0x00).screenBuffer.InputAt 2 := ⟨_, rfl, by decide +kernel⟩
  have stands : (threeFields 0 2 0x00).screenBuffer.StandsAt 1 := ⟨_, rfl, by decide +kernel⟩
  exact (tabsUndo_iff (threeFields_valid 0 2 0x00) (fieldsDetected_detectFields _) rfl stands
    second).mpr (.inr ⟨Nat.one_pos, first, third⟩)

/-- Before the last of three fields there is a protected one, where BackTab goes. -/
theorem not_tabsUndo_protected :
    (threeFields 1 1 0x60).screenBuffer.FieldsDetected ∧
      (threeFields 1 1 0x60).screenBuffer.StandsAt 2 ∧
      (threeFields 1 1 0x60).screenBuffer.InputAt 2 ∧ ¬ (threeFields 1 1 0x60).TabsUndo := by
  refine ⟨fieldsDetected_detectFields _, ⟨_, rfl, by decide +kernel⟩,
    ⟨_, rfl, by decide +kernel⟩, fun undo => ?_⟩
  have moved := undo.unprotected _ rfl
  revert moved
  decide +kernel

end AsyncSession

end Pure3270

import Pure3270.Emulation.ScreenInvariant

/-!
# Tabbing

Tabbing goes to the next input field behind the cursor, else to the first one of
the screen.  It leaves the cursor where it is exactly where all input fields are
at the cursor.
-/

namespace Pure3270

namespace ScreenBuffer

private theorem pairwise_sorted {α : Type} (key : α → Nat) (list : List α) :
    (list.insertionSort fun left right => key left ≤ key right).Pairwise
      fun left right => key left ≤ key right := by
  have : Std.Total fun left right : α => key left ≤ key right :=
    ⟨fun left right => Nat.le_total (key left) (key right)⟩
  have : IsTrans α fun left right : α => key left ≤ key right :=
    ⟨fun _ _ _ => Nat.le_trans⟩
  exact List.pairwise_insertionSort _ list

private theorem find?_sorted_le {α : Type} {key : α → Nat} {list : List α}
    {test : α → Bool} {found : α}
    (first : (list.insertionSort fun left right => key left ≤ key right).find? test =
      some found) {item : α} (member : item ∈ list) (tested : test item = true) :
    key found ≤ key item := by
  have sorted := pairwise_sorted key list
  obtain ⟨_, front, back, split, untested⟩ := List.find?_eq_some_iff_append.mp first
  have listed : item ∈ list.insertionSort fun left right => key left ≤ key right :=
    (List.perm_insertionSort _ list).mem_iff.mpr member
  rw [split] at sorted listed
  rcases List.mem_append.mp listed with early | late
  · have refused := untested item early
    rw [tested] at refused
    cases refused
  · rcases List.mem_cons.mp late with rfl | behind
    · exact Nat.le_refl _
    · exact List.rel_of_pairwise_cons (List.pairwise_append.mp sorted).2.1 behind

/-- The address of a position. -/
def addressOf (screen : ScreenBuffer) (position : Nat × Nat) : Nat :=
  position.1 * screen.cols + position.2

theorem addressOf_inj {screen : ScreenBuffer} {first second : Nat × Nat}
    (firstInside : first.2 < screen.cols) (secondInside : second.2 < screen.cols)
    (same : screen.addressOf first = screen.addressOf second) : first = second := by
  have cols_pos := screen.cols_pos
  unfold addressOf at same
  have left := (Nat.div_mod_unique cols_pos).mpr
    (⟨by rw [Nat.mul_comm screen.cols]; omega, firstInside⟩ :
      first.2 + screen.cols * first.1 = first.1 * screen.cols + first.2 ∧ _)
  have right := (Nat.div_mod_unique cols_pos).mpr
    (⟨by rw [Nat.mul_comm screen.cols]; omega, secondInside⟩ :
      second.2 + screen.cols * second.1 = second.1 * screen.cols + second.2 ∧ _)
  rw [same] at left
  exact Prod.ext (left.1.symm.trans right.1) (left.2.symm.trans right.2)

/-- There is nothing to tab to but the cursor. -/
def TabStays (screen : ScreenBuffer) : Prop :=
  (∀ field ∈ screen.fields, field.isProtected = false → field.start = screen.getPosition) ∧
    (∀ position ∈ screen.asciiFields, screen.addressOf position ≤ screen.cursorAddress) ∧
      ((∀ field ∈ screen.fields, field.isProtected = true) →
        ∀ position ∈ screen.asciiFields, position = screen.getPosition)

instance (screen : ScreenBuffer) : Decidable screen.TabStays :=
  inferInstanceAs (Decidable (_ ∧ _ ∧ _))

variable {screen : ScreenBuffer}

/-- The next input field behind the cursor. -/
def positionBehind (screen : ScreenBuffer) : Option (Nat × Nat) :=
  (((sortByStart screen.cols screen.fields).find? fun field =>
      !field.isProtected && screen.cursorAddress < field.startIndex screen.cols).map
        (·.start)).or
    (screen.sortedAsciiFields.find? fun position =>
      screen.cursorAddress < screen.addressOf position)

/-- The first input field of the screen. -/
def firstPosition (screen : ScreenBuffer) : Option (Nat × Nat) :=
  (((sortByStart screen.cols screen.fields).find? fun field =>
      !field.isProtected).map (·.start)).or
    (screen.sortedAsciiFields.find? fun _ => true)

theorem nextInputPosition_eq :
    screen.nextInputPosition = screen.positionBehind.or screen.firstPosition := by
  unfold nextInputPosition positionBehind firstPosition addressOf
  dsimp only
  split
  · rename_i found
    rw [found]
    rfl
  · rename_i none found
    rw [none, found]
    rfl
  · rename_i none noAscii found
    rw [none, noAscii, found]
    rfl
  · rename_i none noAscii noField found
    rw [none, noAscii, noField, found]
    rfl
  · rename_i none noAscii noField empty
    rw [none, noAscii, noField, empty]
    rfl

private theorem find?_fields {test : Field → Bool} {field : Field}
    (found : (sortByStart screen.cols screen.fields).find? test = some field) :
    field ∈ screen.fields ∧ test field = true :=
  ⟨mem_sortByStart.mp (List.mem_of_find?_eq_some found), List.find?_some found⟩

private theorem mem_sorted_asciiFields {position : Nat × Nat} :
    position ∈ screen.sortedAsciiFields ↔ position ∈ screen.asciiFields :=
  (List.perm_insertionSort _ screen.asciiFields).mem_iff

theorem cursor_lt_positionBehind {position : Nat × Nat}
    (found : screen.positionBehind = some position) :
    screen.cursorAddress < screen.addressOf position := by
  unfold positionBehind at found
  rcases Option.or_eq_some_iff.mp found with first | ⟨_, second⟩
  · obtain ⟨field, here, rfl⟩ := Option.map_eq_some_iff.mp first
    have tested := (find?_fields here).2
    simp only [Bool.and_eq_true, decide_eq_true_eq] at tested
    exact tested.2
  · have tested := List.find?_some second
    simpa using tested

theorem positionBehind_eq_none_iff :
    screen.positionBehind = none ↔
      (∀ field ∈ screen.fields, field.isProtected = false →
        field.startIndex screen.cols ≤ screen.cursorAddress) ∧
      ∀ position ∈ screen.asciiFields,
        screen.addressOf position ≤ screen.cursorAddress := by
  unfold positionBehind
  rw [Option.or_eq_none_iff, Option.map_eq_none_iff, List.find?_eq_none,
    List.find?_eq_none]
  simp only [mem_sortByStart, mem_sorted_asciiFields, Bool.and_eq_true,
    Bool.not_eq_true', decide_eq_true_eq, not_and, Nat.not_lt]

theorem firstPosition_stays_iff (valid : screen.Valid)
    (nothing : screen.positionBehind = none) :
    (∀ position, screen.firstPosition = some position → position = screen.getPosition) ↔
      screen.TabStays := by
  obtain ⟨fieldsBefore, asciiBefore⟩ := positionBehind_eq_none_iff.mp nothing
  have atCursor : ∀ {position : Nat × Nat}, position.2 < screen.cols →
      screen.addressOf position ≤ screen.cursorAddress →
        screen.addressOf screen.getPosition ≤ screen.addressOf position →
          position = screen.getPosition := fun inside below above =>
    addressOf_inj inside valid.cursorCol_lt (Nat.le_antisymm below above)
  unfold firstPosition
  cases firstField : (sortByStart screen.cols screen.fields).find? fun field =>
    !field.isProtected with
  | some field =>
      obtain ⟨member, tested⟩ := find?_fields firstField
      have unprotected : field.isProtected = false := by simpa using tested
      constructor
      · intro stays
        have start : field.start = screen.getPosition := stays field.start rfl
        refine ⟨fun other here free => ?_, asciiBefore, fun locked => ?_⟩
        · have least : screen.addressOf field.start ≤ screen.addressOf other.start :=
            find?_sorted_le firstField here (by rw [free]; rfl)
          rw [start] at least
          exact atCursor (valid.fields_inBounds other here).1.2
            (fieldsBefore other here free) least
        · rw [locked field member] at unprotected
          cases unprotected
      · intro stays position found
        cases found
        exact stays.1 field member unprotected
  | none =>
      have locked : ∀ field ∈ screen.fields, field.isProtected = true := by
        intro field member
        have refused := List.find?_eq_none.mp firstField field (mem_sortByStart.mpr member)
        simpa using refused
      rw [Option.map_none, Option.none_or]
      constructor
      · intro stays
        refine ⟨fun field member free => ?_, asciiBefore, fun _ position member => ?_⟩
        · rw [locked field member] at free
          cases free
        · cases first : screen.sortedAsciiFields.find? fun _ => true with
          | none =>
              have refused := List.find?_eq_none.mp first position
                (mem_sorted_asciiFields.mpr member)
              exact absurd rfl refused
          | some least =>
              have below : screen.addressOf least ≤ screen.addressOf position :=
                find?_sorted_le first member rfl
              rw [stays least first] at below
              exact atCursor (valid.ascii_inBounds position member).2
                (asciiBefore position member) below
      · intro stays position found
        exact stays.2.2 locked position
          (mem_sorted_asciiFields.mp (List.mem_of_find?_eq_some found))

/-- Tabbing leaves the cursor where it is exactly where it has nowhere else to go. -/
theorem nextInputPosition_stays_iff (valid : screen.Valid) :
    (∀ position, screen.nextInputPosition = some position →
      position = screen.getPosition) ↔ screen.TabStays := by
  rw [nextInputPosition_eq]
  cases behind : screen.positionBehind with
  | none =>
      rw [Option.none_or]
      exact firstPosition_stays_iff valid behind
  | some position =>
      have later := cursor_lt_positionBehind behind
      constructor
      · intro stays
        rw [stays position rfl] at later
        exact absurd later (Nat.lt_irrefl _)
      · rintro ⟨fields, ascii, _⟩
        have cursor : screen.addressOf screen.getPosition = screen.cursorAddress := rfl
        have nothing : screen.positionBehind = none := by
          refine positionBehind_eq_none_iff.mpr ⟨fun field member free => ?_, ascii⟩
          show screen.addressOf field.start ≤ _
          rw [fields field member free, cursor]
        rw [nothing] at behind
        cases behind

end ScreenBuffer

end Pure3270

import Pure3270.Emulation.ScreenInvariant

/-!
# Writing into fields

A write refreshes the first field of the list that covers its position.  A
field of several rows covers all columns of them, so that this need not be the
field the position lies in, and the refreshed field loses the attributes that
`_replace` does not carry.
-/

namespace Pure3270

open Foundations

namespace Field

/-- The field as a write is to leave it. -/
def written (content : List UInt8) (field : Field) : Field :=
  { field with
    content
    modified := true
    ordered := field.ordered }

/-- The attributes that `_replace` resets have their reset values. -/
def KeepsAttributes (field : Field) : Prop :=
  field.bypass = false ∧ field.hidden = false ∧ field.codepage = "cp037"

theorem eq_of_params {first second : Field}
    (same : first.toFieldParams = second.toFieldParams) : first = second := by
  cases first
  cases second
  cases same
  rfl

theorem replaceContent_eq_iff {content : List UInt8} {field other : Field} :
    field.replaceContent content = other ↔
      { field.toFieldParams with
        bypass := false
        hidden := false
        codepage := "cp037"
        modified := true
        content } = other.toFieldParams := by
  rw [← replaceContent_toFieldParams]
  exact ⟨congrArg toFieldParams, eq_of_params⟩

theorem replaceContent_eq_written_iff (content : List UInt8) (field : Field) :
    field.replaceContent content = field.written content ↔
      field.KeepsAttributes := by
  rw [replaceContent_eq_iff]
  constructor
  · intro same
    injection same with _ _ _ _ bypass hidden _ _ _ _ _ _ _ _ _ _ _ codepage
    exact ⟨bypass.symm, hidden.symm, codepage.symm⟩
  · rintro ⟨bypass, hidden, codepage⟩
    obtain ⟨params, _⟩ := field
    cases params
    cases bypass
    cases hidden
    cases codepage
    rfl

theorem written_eq_self_iff {content : List UInt8} {field : Field} :
    field.written content = field ↔
      field.modified = true ∧ field.content = content := by
  constructor
  · intro same
    have params := congrArg toFieldParams same
    exact ⟨(congrArg FieldParams.modified params).symm,
      (congrArg FieldParams.content params).symm⟩
  · rintro ⟨modified, shown⟩
    obtain ⟨params, _⟩ := field
    cases params
    cases modified
    cases shown
    rfl

/-- Replacing the content changes nothing where it is there already. -/
theorem replaceContent_eq_self_iff {content : List UInt8} {field : Field} :
    field.replaceContent content = field ↔
      field.KeepsAttributes ∧ field.modified = true ∧ field.content = content := by
  constructor
  · intro same
    have params := congrArg toFieldParams same
    rw [replaceContent_toFieldParams] at params
    exact ⟨⟨(congrArg FieldParams.bypass params).symm,
      (congrArg FieldParams.hidden params).symm,
      (congrArg FieldParams.codepage params).symm⟩,
      (congrArg FieldParams.modified params).symm,
      (congrArg FieldParams.content params).symm⟩
  · rintro ⟨keeps, already⟩
    rw [(replaceContent_eq_written_iff content field).mpr keeps]
    exact written_eq_self_iff.mpr already

/-- Linear addresses keep the order of positions. -/
theorem startIndex_le_endIndex {rows cols : Nat} {field : Field}
    (inside : field.InBounds rows cols) :
    field.startIndex cols ≤ field.endIndex cols := by
  have start := inside.1.2
  unfold startIndex endIndex
  rcases field.ordered with above | ⟨row, col⟩
  · have rows : (field.start.1 + 1) * cols ≤ field.finish.1 * cols :=
      Nat.mul_le_mul_right cols above
    rw [Nat.add_mul, Nat.one_mul] at rows
    omega
  · rw [row]
    omega

theorem endIndex_lt {rows cols : Nat} {field : Field}
    (inside : field.InBounds rows cols) : field.endIndex cols < rows * cols :=
  ScreenBuffer.address_lt inside.2.1 inside.2.2

end Field

namespace ScreenBuffer

/-- The bytes of a field in a buffer. -/
def contentOf (cols : Nat) (buffer : List UInt8) (field : Field) : List UInt8 :=
  slice (field.startIndex cols) (field.endIndex cols) buffer

theorem getElem?_slice (first last pos : Nat) (bytes : List UInt8) :
    (slice first last bytes)[pos]? =
      if first + pos ≤ last then bytes[first + pos]? else none := by
  unfold slice
  rw [List.getElem?_take, List.getElem?_drop]
  exact if_congr (by omega) rfl rfl

/-- Slices of two buffers are the same where the buffers agree. -/
theorem slice_eq_iff {first last : Nat} {left right : List UInt8} :
    slice first last left = slice first last right ↔
      ∀ pos, first ≤ pos → pos ≤ last → left[pos]? = right[pos]? := by
  constructor
  · intro same pos behind before
    have here := congrArg (fun bytes => bytes[pos - first]?) same
    simp only [getElem?_slice, Nat.add_sub_cancel' behind, if_pos before] at here
    exact here
  · intro same
    apply List.ext_getElem?
    intro pos
    rw [getElem?_slice, getElem?_slice]
    split
    · rename_i before
      exact same _ (Nat.le_add_right _ _) before
    · rfl

/-- A field shows the same bytes in two buffers that agree on its cells. -/
theorem contentOf_eq_iff {cols : Nat} {left right : List UInt8} {field : Field} :
    contentOf cols left field = contentOf cols right field ↔
      ∀ pos, containsIndex cols pos field = true → left[pos]? = right[pos]? := by
  simp only [containsIndex, Bool.and_eq_true, decide_eq_true_eq]
  exact slice_eq_iff.trans ⟨fun same pos inside => same pos inside.1 inside.2,
    fun same pos behind before => same pos ⟨behind, before⟩⟩

/-- `write_char` stores something: the position lies on the screen and in the
arrays, and it is not protected or protection is passed over. -/
def Accepts (row col : Nat) (circumventProtection : Bool)
    (screen : ScreenBuffer) : Prop :=
  (row < screen.rows ∧ col < screen.cols) ∧
    row * screen.cols + col < screen.buffer.length ∧
    (row * screen.cols + col) * 3 + 2 < screen.attributes.length ∧
    (screen.isProtectedCell (row * screen.cols + col) &&
      !circumventProtection) = false

instance (row col : Nat) (circumventProtection : Bool) (screen : ScreenBuffer) :
    Decidable (screen.Accepts row col circumventProtection) :=
  inferInstanceAs (Decidable (_ ∧ _))

/-- The screen of a write before it looks at the fields. -/
def typed (byte : UInt8) (row col : Nat)
    (isProtected markFieldStart explicitPosition : Bool)
    (screen : ScreenBuffer) : ScreenBuffer :=
  let pos := row * screen.cols + col
  let stored := screen.storeChar byte pos isProtected
  let marked :=
    if markFieldStart then
      { stored with fieldStarts := stored.fieldStarts.insert pos }
    else stored
  if explicitPosition then marked.advanceCursor (marked.advanceAt row col)
  else marked

/-- What a write does to the fields. -/
def refreshFields (row col : Nat) (screen : ScreenBuffer) : ScreenBuffer :=
  match screen.updateFieldContent row col with
  | (updated, true) => { updated with navigationCacheValid := false }
  | (updated, false) =>
      if updated.suspendFieldDetection = 0 ∧ (col = 0 ∨ updated.fields = []) then
        updated.detectFields
      else updated

theorem writeChar_eq (byte : UInt8) (position : Option (Nat × Nat))
    (isProtected circumventProtection markFieldStart : Bool)
    (screen : ScreenBuffer) :
    screen.writeChar byte position isProtected circumventProtection
        markFieldStart =
      if screen.Accepts (position.getD screen.getPosition).1
          (position.getD screen.getPosition).2 circumventProtection then
        (screen.typed byte (position.getD screen.getPosition).1
          (position.getD screen.getPosition).2 isProtected markFieldStart
          position.isSome).refreshFields (position.getD screen.getPosition).1
          (position.getD screen.getPosition).2
      else screen := by
  unfold writeChar
  simp only
  split
  · rename_i outside
    rw [if_neg fun accepted => outside accepted.1]
  rename_i inside
  split
  · rename_i outside
    rw [if_neg fun accepted => absurd accepted.2.1 (by omega)]
  rename_i inBuffer
  split
  · rename_i outside
    rw [if_neg fun accepted => absurd accepted.2.2.1 (by omega)]
  rename_i inAttributes
  split
  · rename_i refused
    rw [if_neg fun accepted => by rw [accepted.2.2.2] at refused; cases refused]
  · rename_i allowed
    have accepted : screen.Accepts (position.getD screen.getPosition).1
        (position.getD screen.getPosition).2 circumventProtection :=
      ⟨not_not.mp inside, Nat.lt_of_not_le inBuffer,
        Nat.lt_of_not_le inAttributes, Bool.eq_false_iff.mpr allowed⟩
    rw [if_pos accepted]
    rfl

/-- A write detects the fields again: no field covers its position, detection
is not suspended, and the write is in the first column or the first at all. -/
def Redetects (row col : Nat) (screen : ScreenBuffer) : Prop :=
  (∀ field ∈ screen.fields, coversPosition row col field = false) ∧
    screen.suspendFieldDetection = 0 ∧ (col = 0 ∨ screen.fields = [])

instance (row col : Nat) (screen : ScreenBuffer) :
    Decidable (screen.Redetects row col) :=
  inferInstanceAs (Decidable (_ ∧ _ ∧ _))

section Typed

variable {byte : UInt8} {row col : Nat}
  {isProtected markFieldStart explicitPosition : Bool} {screen : ScreenBuffer}

@[simp] theorem typed_rows : (screen.typed byte row col isProtected
    markFieldStart explicitPosition).rows = screen.rows := by
  unfold typed
  simp only
  split <;> split <;> rfl

@[simp] theorem typed_cols : (screen.typed byte row col isProtected
    markFieldStart explicitPosition).cols = screen.cols := by
  unfold typed
  simp only
  split <;> split <;> rfl

@[simp] theorem typed_fields : (screen.typed byte row col isProtected
    markFieldStart explicitPosition).fields = screen.fields := by
  unfold typed
  simp only
  split <;> split <;> rfl

@[simp] theorem typed_buffer : (screen.typed byte row col isProtected
    markFieldStart explicitPosition).buffer =
      screen.buffer.set (row * screen.cols + col) byte := by
  unfold typed
  simp only
  split <;> split <;> rfl

@[simp] theorem typed_suspendFieldDetection : (screen.typed byte row col
    isProtected markFieldStart explicitPosition).suspendFieldDetection =
      screen.suspendFieldDetection := by
  unfold typed
  simp only
  split <;> split <;> rfl

@[simp] theorem typed_fieldStarts : (screen.typed byte row col isProtected
    markFieldStart explicitPosition).fieldStarts =
      if markFieldStart then
        screen.fieldStarts.insert (row * screen.cols + col)
      else screen.fieldStarts := by
  unfold typed
  simp only
  split <;> split <;> rfl

/-- The attribute bytes after a write; the one written may become protected. -/
theorem typed_attribute (pos : Nat) : (screen.typed byte row col isProtected
    markFieldStart explicitPosition).attributes[pos * 3]? =
      (screen.attributes[pos * 3]?).map fun flags =>
        if pos = row * screen.cols + col then
          flags ||| (if isProtected then 0x40 else 0)
        else flags := by
  have attributes : (screen.typed byte row col isProtected markFieldStart
      explicitPosition).attributes =
        (screen.storeChar byte (row * screen.cols + col) isProtected).attributes := by
    unfold typed
    simp only
    split <;> split <;> rfl
  rw [attributes]
  unfold storeChar
  simp only
  generalize row * screen.cols + col = written
  rw [List.getElem?_set_ne (by omega), List.getElem?_set_ne (by omega)]
  by_cases here : pos = written
  · subst here
    cases inside : screen.attributes[pos * 3]? with
    | none =>
        have beyond := List.getElem?_eq_none_iff.mp inside
        rw [Option.map_none, List.getElem?_eq_none (by simpa using beyond)]
    | some flags =>
        have bound := (List.getElem?_eq_some_iff.mp inside).1
        rw [List.getElem?_set_self bound, Option.map_some, if_pos rfl, Option.getD_some]
  · rw [List.getElem?_set_ne (by omega)]
    simp [here]

@[simp] theorem typed_extendedAttributes : (screen.typed byte row col isProtected
    markFieldStart explicitPosition).extendedAttributes =
      screen.extendedAttributes := by
  unfold typed
  simp only
  split <;> split <;> rfl

theorem typed_redetects_iff : (screen.typed byte row col isProtected
    markFieldStart explicitPosition).Redetects row col ↔
      screen.Redetects row col := by
  unfold Redetects
  rw [typed_fields, typed_suspendFieldDetection]

end Typed

theorem refreshField_eq {screen : ScreenBuffer} (row col : Nat) {field : Field}
    (inside : field.InBounds screen.rows screen.cols) :
    screen.refreshField row col field =
      if coversPosition row col field then
        some (field.replaceContent (contentOf screen.cols screen.buffer field))
      else none := by
  have ordered := Field.startIndex_le_endIndex inside
  have below : field.endIndex screen.cols < screen.size := Field.endIndex_lt inside
  have whole : min (field.endIndex screen.cols) (screen.size - 1) =
      field.endIndex screen.cols := Nat.min_eq_left (by omega)
  have nonempty : ¬ field.endIndex screen.cols < field.startIndex screen.cols :=
    Nat.not_lt.mpr ordered
  unfold refreshField
  simp only [whole, if_neg nonempty]
  rfl

theorem coversPosition_of_containsIndex {rows cols row col : Nat} {field : Field}
    (inside : field.InBounds rows cols) (colInside : col < cols)
    (contains : containsIndex cols (row * cols + col) field = true) :
    coversPosition row col field = true := by
  simp only [containsIndex, Bool.and_eq_true, decide_eq_true_eq] at contains
  have startRow : field.start.1 ≤ row := by
    by_contra above
    have rows : (row + 1) * cols ≤ field.start.1 * cols :=
      Nat.mul_le_mul_right cols (by omega)
    rw [Nat.add_mul, Nat.one_mul] at rows
    have := contains.1
    unfold Field.startIndex at this
    omega
  have finishRow : row ≤ field.finish.1 := by
    by_contra below
    have rows : (field.finish.1 + 1) * cols ≤ row * cols :=
      Nat.mul_le_mul_right cols (by omega)
    rw [Nat.add_mul, Nat.one_mul] at rows
    have := contains.2
    have := inside.2.2
    unfold Field.endIndex at *
    omega
  have columns : field.start.1 = field.finish.1 →
      field.start.2 ≤ col ∧ col ≤ field.finish.2 := by
    intro single
    have here : field.start.1 = row := by omega
    unfold Field.startIndex Field.endIndex at contains
    rw [← single, here] at contains
    omega
  simp only [coversPosition, Bool.and_eq_true, Bool.or_eq_true,
    decide_eq_true_eq]
  exact ⟨⟨startRow, finishRow⟩, Classical.or_iff_not_imp_left.mpr fun single =>
    columns (not_not.mp single)⟩

theorem replaceF_refreshField {screen : ScreenBuffer} {row col : Nat}
    {front back : List Field} {covering : Field}
    (inside : ∀ field ∈ front ++ covering :: back,
      field.InBounds screen.rows screen.cols)
    (notBefore : ∀ field ∈ front, coversPosition row col field = false)
    (covers : coversPosition row col covering = true) :
    (front ++ covering :: back).replaceF (screen.refreshField row col) =
      front ++ covering.replaceContent
        (contentOf screen.cols screen.buffer covering) :: back := by
  induction front with
  | nil =>
      have here := refreshField_eq row col
        (inside covering List.mem_cons_self)
      rw [if_pos covers] at here
      exact List.replaceF_cons_of_some _ here
  | cons field front ih =>
      have here := refreshField_eq row col
        (inside field List.mem_cons_self)
      rw [if_neg (by simp [notBefore field List.mem_cons_self])] at here
      have later := ih (fun other member => inside other (.tail _ member))
        fun other member => notBefore other (.tail _ member)
      simp only [List.cons_append]
      rw [List.replaceF_cons_of_none _ here, later]

theorem refreshFields_of_covered {screen : ScreenBuffer} {row col : Nat}
    {front back : List Field} {covering : Field}
    (inside : ∀ field ∈ screen.fields, field.InBounds screen.rows screen.cols)
    (split : screen.fields = front ++ covering :: back)
    (notBefore : ∀ field ∈ front, coversPosition row col field = false)
    (covers : coversPosition row col covering = true) :
    screen.refreshFields row col = { screen with
      fields := front ++ covering.replaceContent
        (contentOf screen.cols screen.buffer covering) :: back
      navigationCacheValid := false } := by
  have here := refreshField_eq row col
    (inside covering (by rw [split]; simp))
  rw [if_pos covers] at here
  have found : (screen.fields.findSome? (screen.refreshField row col)).isSome =
      true := by
    rw [List.isSome_findSome?, List.any_eq_true]
    exact ⟨covering, by rw [split]; simp, by rw [here]; rfl⟩
  have replaced := @replaceF_refreshField screen row col front back covering
    (by rw [← split]; exact inside) notBefore covers
  unfold refreshFields updateFieldContent
  rw [if_pos found]
  simp only
  rw [split, replaced]

theorem refreshFields_of_uncovered {screen : ScreenBuffer} {row col : Nat}
    (uncovered : ∀ field ∈ screen.fields, coversPosition row col field = false) :
    screen.refreshFields row col =
      if screen.suspendFieldDetection = 0 ∧ (col = 0 ∨ screen.fields = []) then
        screen.detectFields
      else screen := by
  have missed : screen.fields.findSome? (screen.refreshField row col) = none := by
    rw [List.findSome?_eq_none_iff]
    intro field member
    unfold refreshField
    rw [if_neg (by simp [uncovered field member])]
  unfold refreshFields updateFieldContent
  rw [missed]
  rfl

theorem refreshFields_of_redetects {screen : ScreenBuffer} {row col : Nat}
    (redetects : screen.Redetects row col) :
    screen.refreshFields row col = screen.detectFields := by
  rw [refreshFields_of_uncovered redetects.1, if_pos redetects.2]

/-- Otherwise a write replaces at most one field of the list. -/
theorem refreshFields_of_stays {screen : ScreenBuffer} {row col : Nat}
    (inside : ∀ field ∈ screen.fields, field.InBounds screen.rows screen.cols)
    (stays : ¬ screen.Redetects row col) :
    ∃ valid, screen.refreshFields row col = { screen with
      fields := screen.fields.replaceF (screen.refreshField row col)
      navigationCacheValid := valid } := by
  unfold refreshFields updateFieldContent
  by_cases found :
      (screen.fields.findSome? (screen.refreshField row col)).isSome = true
  · rw [if_pos found]
    exact ⟨false, rfl⟩
  · have missed : ∀ field ∈ screen.fields, screen.refreshField row col field = none := by
      simpa [List.findSome?_eq_none_iff] using found
    rw [if_neg found, List.replaceF_of_forall_none missed]
    refine ⟨screen.navigationCacheValid, ?_⟩
    simp only
    split
    · rename_i detects
      refine absurd ⟨fun field member => ?_, detects⟩ stays
      have none := missed field member
      rw [refreshField_eq row col (inside field member)] at none
      by_contra covers
      rw [if_pos (by simpa using covers)] at none
      cases none
    · rfl

theorem refreshFields_lists (row col : Nat) (screen : ScreenBuffer) :
    ∃ fields positions inputs valid, screen.refreshFields row col = { screen with
      fields
      fieldPositionCache := positions
      inputFieldsCache := inputs
      navigationCacheValid := valid } := by
  unfold refreshFields updateFieldContent
  by_cases found :
      (screen.fields.findSome? (screen.refreshField row col)).isSome = true
  · rw [if_pos found]
    exact ⟨_, _, _, _, rfl⟩
  · rw [if_neg found]
    simp only
    split
    · exact ⟨_, _, _, _, rfl⟩
    · exact ⟨_, _, _, _, rfl⟩

theorem refreshFields_fieldStarts (row col : Nat) (screen : ScreenBuffer) :
    (screen.refreshFields row col).fieldStarts = screen.fieldStarts := by
  obtain ⟨_, _, _, _, same⟩ := refreshFields_lists row col screen
  rw [same]

theorem refreshFields_buffer (row col : Nat) (screen : ScreenBuffer) :
    (screen.refreshFields row col).buffer = screen.buffer := by
  obtain ⟨_, _, _, _, same⟩ := refreshFields_lists row col screen
  rw [same]

theorem writeChar_buffer (byte : UInt8) (position : Option (Nat × Nat))
    (isProtected circumventProtection markFieldStart : Bool)
    (screen : ScreenBuffer) :
    (screen.writeChar byte position isProtected circumventProtection
      markFieldStart).buffer =
      if screen.Accepts (position.getD screen.getPosition).1
          (position.getD screen.getPosition).2 circumventProtection then
        screen.buffer.set ((position.getD screen.getPosition).1 * screen.cols +
          (position.getD screen.getPosition).2) byte
      else screen.buffer := by
  rw [writeChar_eq]
  split
  · rw [refreshFields_buffer, typed_buffer]
  · rfl

theorem writeChar_fieldStarts (byte : UInt8) (position : Option (Nat × Nat))
    (isProtected circumventProtection markFieldStart : Bool)
    (screen : ScreenBuffer) :
    (screen.writeChar byte position isProtected circumventProtection
      markFieldStart).fieldStarts =
      if screen.Accepts (position.getD screen.getPosition).1
          (position.getD screen.getPosition).2 circumventProtection ∧
          markFieldStart then
        screen.fieldStarts.insert ((position.getD screen.getPosition).1 *
          screen.cols + (position.getD screen.getPosition).2)
      else screen.fieldStarts := by
  rw [writeChar_eq]
  by_cases accepted : screen.Accepts (position.getD screen.getPosition).1
      (position.getD screen.getPosition).2 circumventProtection
  · rw [if_pos accepted, refreshFields_fieldStarts, typed_fieldStarts]
    simp only [accepted, true_and]
  · rw [if_neg accepted, if_neg fun both => accepted both.1]

/-- A write that passes over protection is accepted everywhere on the screen. -/
theorem Valid.accepts {screen : ScreenBuffer} (valid : screen.Valid) {row col : Nat}
    (inside : row < screen.rows ∧ col < screen.cols) : screen.Accepts row col true := by
  have below : row * screen.cols + col < screen.size := address_lt inside.1 inside.2
  exact ⟨inside, by rw [valid.buffer_length]; exact below,
    by rw [valid.attributes_length]; omega, by simp⟩

/-- The fields lie on the screen and cover the positions from one up to
another without gaps, in order. -/
def Consecutive (rows cols : Nat) : Nat → Nat → List Field → Prop
  | first, last, [] => first = last
  | first, last, field :: rest =>
      field.InBounds rows cols ∧ field.startIndex cols = first ∧
        Consecutive rows cols (field.endIndex cols + 1) last rest

def FieldsPartition (screen : ScreenBuffer) : Prop :=
  Consecutive screen.rows screen.cols 0 screen.size screen.fields

instance (rows cols : Nat) (field : Field) :
    Decidable (field.InBounds rows cols) :=
  inferInstanceAs (Decidable (_ ∧ _))

instance decidableConsecutive (rows cols : Nat) :
    (first last : Nat) → (fields : List Field) →
      Decidable (Consecutive rows cols first last fields)
  | first, last, [] => inferInstanceAs (Decidable (first = last))
  | first, last, field :: rest =>
      have := decidableConsecutive rows cols (field.endIndex cols + 1) last rest
      inferInstanceAs (Decidable
        (field.InBounds rows cols ∧ field.startIndex cols = first ∧
          Consecutive rows cols (field.endIndex cols + 1) last rest))

instance (screen : ScreenBuffer) : Decidable screen.FieldsPartition :=
  decidableConsecutive screen.rows screen.cols 0 screen.size screen.fields

section Consecutive

variable {rows cols first last : Nat} {fields : List Field}

theorem Consecutive.inBounds (consecutive : Consecutive rows cols first last fields)
    {field : Field} (member : field ∈ fields) : field.InBounds rows cols := by
  induction fields generalizing first with
  | nil => cases member
  | cons head rest ih =>
      rcases List.mem_cons.mp member with rfl | later
      · exact consecutive.1
      · exact ih consecutive.2.2 later

theorem Consecutive.first_le (consecutive : Consecutive rows cols first last fields)
    {field : Field} (member : field ∈ fields) : first ≤ field.startIndex cols := by
  induction fields generalizing first with
  | nil => cases member
  | cons head rest ih =>
      obtain ⟨inside, start, later⟩ := consecutive
      rcases List.mem_cons.mp member with rfl | behind
      · omega
      · have ordered := Field.startIndex_le_endIndex inside
        have := ih later behind
        omega

theorem Consecutive.pairwise
    (consecutive : Consecutive rows cols first last fields) :
    fields.Pairwise fun front back =>
      front.endIndex cols < back.startIndex cols := by
  induction fields generalizing first with
  | nil => exact List.Pairwise.nil
  | cons field rest ih =>
      refine List.Pairwise.cons (fun other member => ?_) (ih consecutive.2.2)
      exact consecutive.2.2.first_le member

theorem Consecutive.exists_contains
    (consecutive : Consecutive rows cols first last fields) {pos : Nat}
    (above : first ≤ pos) (below : pos < last) :
    ∃ field ∈ fields, containsIndex cols pos field = true := by
  induction fields generalizing first with
  | nil =>
      have empty : first = last := consecutive
      omega
  | cons field rest ih =>
      obtain ⟨inside, start, later⟩ := consecutive
      by_cases here : pos ≤ field.endIndex cols
      · refine ⟨field, List.mem_cons_self, ?_⟩
        simp only [containsIndex, Bool.and_eq_true, decide_eq_true_eq]
        omega
      · obtain ⟨found, member, contains⟩ := ih later (by omega)
        exact ⟨found, .tail _ member, contains⟩

/-- No two fields of a partition contain the same position. -/
theorem Consecutive.contains_unique
    (consecutive : Consecutive rows cols first last fields)
    {front back : List Field} {field : Field} {pos : Nat}
    (split : fields = front ++ field :: back)
    (contains : containsIndex cols pos field = true) :
    ∀ other ∈ front ++ back, containsIndex cols pos other = false := by
  have apart := consecutive.pairwise
  rw [split, List.pairwise_append, List.pairwise_cons] at apart
  obtain ⟨_, ⟨behind, _⟩, before⟩ := apart
  simp only [containsIndex, Bool.and_eq_true, decide_eq_true_eq] at contains
  intro other member
  rw [Bool.eq_false_iff]
  simp only [containsIndex, ne_eq, Bool.and_eq_true, decide_eq_true_eq]
  rcases List.mem_append.mp member with early | late
  · have := before other early field List.mem_cons_self
    omega
  · have := behind other late
    omega

end Consecutive

/-- A write at a position touches one field: the one that holds it gets the
bytes of its range and the modified flag, and the rest of the list is as
before. -/
def TouchesOneField (row col : Nat) (before after : ScreenBuffer) : Prop :=
  ∃ front field back,
    before.fields = front ++ field :: back ∧
    containsIndex before.cols (row * before.cols + col) field = true ∧
    after.fields =
      front ++ field.written (contentOf before.cols after.buffer field) :: back

/-- A field is marked as modified and has the bytes of its range already. -/
def AlreadyShows (cols : Nat) (buffer : List UInt8) (field : Field) : Prop :=
  field.modified = true ∧ field.content = contentOf cols buffer field

/-- The first field whose rows cover the position has no attribute that a
refresh resets, and it is the field that holds the position, unless both are
marked as modified and show the new byte already. -/
def RefreshesInPlace (byte : UInt8) (row col : Nat) (screen : ScreenBuffer) :
    Prop :=
  ∃ covering containing,
    screen.fields.find? (coversPosition row col) = some covering ∧
    screen.fields.find?
      (containsIndex screen.cols (row * screen.cols + col)) = some containing ∧
    covering.KeepsAttributes ∧
    (covering = containing ∨
      ∀ field ∈ [covering, containing], AlreadyShows screen.cols
        (screen.buffer.set (row * screen.cols + col) byte) field)

/-- The first element with a property and another one that has it. -/
private theorem first_split {α : Type} {test : α → Bool} {front back front' back' : List α}
    {first other : α} (notBefore : ∀ item ∈ front, test item = false)
    (tested : test other = true)
    (same : front ++ first :: back = front' ++ other :: back') :
    (front = front' ∧ first = other ∧ back = back') ∨
      ∃ between, front' = front ++ first :: between ∧
        back = between ++ other :: back' := by
  rcases List.append_eq_append_iff.mp same with
    ⟨gap, later, rest⟩ | ⟨gap, earlier, rest⟩
  · cases gap with
    | nil =>
        obtain ⟨rfl, rfl⟩ := List.cons.inj rest
        exact .inl ⟨by simpa using later.symm, rfl, rfl⟩
    | cons item between =>
        obtain ⟨rfl, rfl⟩ := List.cons.inj rest
        exact .inr ⟨between, later, rfl⟩
  · cases gap with
    | nil =>
        obtain ⟨rfl, rfl⟩ := List.cons.inj rest
        exact .inl ⟨by simpa using earlier, rfl, rfl⟩
    | cons item between =>
        obtain ⟨rfl, _⟩ := List.cons.inj rest
        have absent := notBefore other (by rw [earlier]; simp)
        rw [tested] at absent
        cases absent

theorem writeChar_of_covered {byte : UInt8} {position : Option (Nat × Nat)}
    {isProtected circumventProtection markFieldStart : Bool}
    {screen : ScreenBuffer} {row col : Nat}
    (target : position.getD screen.getPosition = (row, col))
    (accepted : screen.Accepts row col circumventProtection)
    (inside : ∀ field ∈ screen.fields, field.InBounds screen.rows screen.cols)
    {front back : List Field} {covering : Field}
    (split : screen.fields = front ++ covering :: back)
    (notBefore : ∀ field ∈ front, coversPosition row col field = false)
    (covers : coversPosition row col covering = true) :
    screen.writeChar byte position isProtected circumventProtection
        markFieldStart =
      { screen.typed byte row col isProtected markFieldStart position.isSome with
        fields := front ++ covering.replaceContent
          (contentOf screen.cols
            (screen.buffer.set (row * screen.cols + col) byte) covering) :: back
        navigationCacheValid := false } := by
  rw [writeChar_eq, target, if_pos accepted]
  have refreshed := @refreshFields_of_covered
    (screen.typed byte row col isProtected markFieldStart position.isSome)
    row col front back covering (by simpa using inside)
    (by simpa using split) notBefore covers
  rw [refreshed]
  simp only [typed_cols, typed_buffer]

section Partition

variable {screen : ScreenBuffer} {row col : Nat} {front back : List Field}
  {containing : Field}

/-- In a partition a write touches one field exactly when it leaves the list as
written at the field that holds the position. -/
private theorem touchesOneField_iff (partition : screen.FieldsPartition)
    (split : screen.fields = front ++ containing :: back)
    (contains : containsIndex screen.cols (row * screen.cols + col) containing =
      true) {after : ScreenBuffer} :
    TouchesOneField row col screen after ↔
      after.fields = front ++ containing.written
        (contentOf screen.cols after.buffer containing) :: back := by
  constructor
  · rintro ⟨front', field, back', split', contains', written⟩
    have others := Consecutive.contains_unique partition split contains
    have same := split.symm.trans split'
    rcases first_split
      (fun item member => others item (List.mem_append_left _ member))
      contains' same with ⟨rfl, rfl, rfl⟩ | ⟨between, _, later⟩
    · exact written
    · have absent := others field (by rw [later]; simp)
      rw [contains'] at absent
      cases absent
  · intro written
    exact ⟨front, containing, back, split, contains, written⟩

private theorem find?_of_split {α : Type} {test : α → Bool} {front back : List α}
    {item : α} (notBefore : ∀ other ∈ front, test other = false)
    (tested : test item = true) :
    (front ++ item :: back).find? test = some item := by
  rw [List.find?_eq_some_iff_append]
  exact ⟨tested, front, back, rfl, fun other member => by
    rw [notBefore other member]
    rfl⟩

end Partition

/-- A write touches one field exactly when it refreshes it in place. -/
theorem writeChar_touchesOneField_iff (screen : ScreenBuffer) (byte : UInt8)
    (position : Option (Nat × Nat))
    (isProtected circumventProtection markFieldStart : Bool) (row col : Nat)
    (partition : screen.FieldsPartition)
    (target : position.getD screen.getPosition = (row, col))
    (accepted : screen.Accepts row col circumventProtection) :
    TouchesOneField row col screen (screen.writeChar byte position isProtected
        circumventProtection markFieldStart) ↔
      screen.RefreshesInPlace byte row col := by
  have inside : ∀ field ∈ screen.fields,
      field.InBounds screen.rows screen.cols :=
    fun field member => Consecutive.inBounds partition member
  obtain ⟨containing, member, contains⟩ := Consecutive.exists_contains partition
    (Nat.zero_le _) (address_lt accepted.1.1 accepted.1.2)
  obtain ⟨front, back, split⟩ := List.append_of_mem member
  have containsCovers := coversPosition_of_containsIndex
    (inside containing member) accepted.1.2 contains
  obtain ⟨covering, found⟩ := Option.isSome_iff_exists.mp
    (List.find?_isSome.mpr ⟨containing, member, containsCovers⟩)
  obtain ⟨covers, before, behind, coverSplit, notBefore⟩ :=
    List.find?_eq_some_iff_append.mp found
  have notBefore : ∀ field ∈ before, coversPosition row col field = false :=
    fun field early => by simpa using notBefore field early
  have foundContaining : screen.fields.find?
      (containsIndex screen.cols (row * screen.cols + col)) = some containing := by
    rw [split]
    refine find?_of_split (fun field early => ?_) contains
    exact Consecutive.contains_unique partition split contains field
      (List.mem_append_left _ early)
  have condition : screen.RefreshesInPlace byte row col ↔
      covering.KeepsAttributes ∧ (covering = containing ∨
        ∀ field ∈ [covering, containing], AlreadyShows screen.cols
          (screen.buffer.set (row * screen.cols + col) byte) field) := by
    constructor
    · rintro ⟨first, holder, foundFirst, foundHolder, keeps⟩
      cases Option.some.inj (found.symm.trans foundFirst)
      cases Option.some.inj (foundContaining.symm.trans foundHolder)
      exact keeps
    · intro keeps
      exact ⟨covering, containing, found, foundContaining, keeps⟩
  rw [condition, touchesOneField_iff partition split contains,
    writeChar_of_covered target accepted inside coverSplit notBefore covers]
  simp only [typed_buffer]
  rcases first_split notBefore containsCovers (coverSplit.symm.trans split) with
    ⟨rfl, rfl, rfl⟩ | ⟨between, rfl, rfl⟩
  · -- the covering field is the one that contains the position
    rw [List.append_cancel_left_eq, List.cons.injEq,
      Field.replaceContent_eq_written_iff]
    exact ⟨fun keeps => ⟨keeps.1, .inl rfl⟩, fun keeps => ⟨keeps.1, rfl⟩⟩
  · -- two fields: both have to be there already
    have apart := Consecutive.pairwise partition
    rw [split, List.append_assoc, List.pairwise_append] at apart
    have ordered := Field.startIndex_le_endIndex
      (inside containing member)
    have different : covering ≠ containing := by
      rintro rfl
      have := apart.2.1
      rw [List.cons_append, List.pairwise_cons] at this
      have := this.1 covering (by simp)
      omega
    rw [List.append_assoc, List.append_cancel_left_eq, List.cons_append,
      List.cons.injEq, List.append_cancel_left_eq, List.cons.injEq,
      Field.replaceContent_eq_self_iff, eq_comm (a := containing),
      Field.written_eq_self_iff]
    simp only [different, false_or, List.mem_cons, List.not_mem_nil, or_false,
      forall_eq_or_imp, forall_eq, AlreadyShows]
    tauto

/-- Two rows of three columns: a field over four cells, another over the last
two. -/
def twoRowScreen : ScreenBuffer :=
  ((init 2 3 (by decide) (by decide) 0x40 "cp037").setAttribute 0x00
    (some (0, 0))).setAttribute 0x00 (some (1, 1))

def twoRowField : Field :=
  Field.init { start := (0, 0), finish := (1, 0), content := [0x00, 0x40, 0x40, 0x40] }

def oneRowField : Field :=
  Field.init { start := (1, 1), finish := (1, 2), content := [0x00, 0x40] }

theorem writeChar_touchesOneField_first :
    TouchesOneField 0 1 twoRowScreen
      (twoRowScreen.writeChar 0xC1 (some (0, 1)) false false false) := by
  refine (writeChar_touchesOneField_iff twoRowScreen 0xC1 (some (0, 1)) false
    false false 0 1 (by decide +kernel) rfl (by decide +kernel)).mpr ?_
  exact ⟨twoRowField, twoRowField, by decide +kernel, by decide +kernel,
    ⟨rfl, rfl, rfl⟩, .inl rfl⟩

/-- Typing behind the second attribute byte changes the first field instead. -/
theorem not_writeChar_touchesOneField :
    ¬ ∀ (screen : ScreenBuffer) (byte : UInt8) (position : Option (Nat × Nat))
      (isProtected circumventProtection markFieldStart : Bool) (row col : Nat),
      screen.FieldsPartition → position.getD screen.getPosition = (row, col) →
      screen.Accepts row col circumventProtection →
      TouchesOneField row col screen (screen.writeChar byte position isProtected
        circumventProtection markFieldStart) := by
  intro claimed
  have partition : twoRowScreen.FieldsPartition := by decide +kernel
  have touched := claimed twoRowScreen 0xC1 (some (1, 2)) false false false 1 2
    partition rfl (by decide +kernel)
  have split : twoRowScreen.fields = [twoRowField] ++ oneRowField :: [] := by
    decide +kernel
  have written := (touchesOneField_iff partition split (by decide +kernel)).mp touched
  have modified := congrArg (fun fields => fields.map (·.modified)) written
  revert modified
  decide +kernel

end ScreenBuffer

end Pure3270

import Pure3270.Emulation.FieldSpans

/-!
# The layout of the fields

Which cells a field has and whether it is protected decides what may be erased.
The lookup of a field goes through a cache that a write drops or builds again;
the layout stays the same through it.
-/

namespace Pure3270

open Foundations

theorem find?_reverse_of_unique {α : Type} {test : α → Bool} {items : List α}
    (unique : ∀ front item back, items = front ++ item :: back → test item = true →
      ∀ other ∈ back, test other = false) :
    items.reverse.find? test = items.find? test := by
  cases found : items.find? test with
  | none =>
      rw [List.find?_eq_none] at found ⊢
      exact fun item member => found item (List.mem_reverse.mp member)
  | some item =>
      obtain ⟨passes, front, back, split, notBefore⟩ :=
        List.find?_eq_some_iff_append.mp found
      rw [List.find?_eq_some_iff_append]
      refine ⟨passes, back.reverse, front.reverse, ?_, fun other member => ?_⟩
      · rw [split]
        simp
      · rw [unique front item back split passes other (List.mem_reverse.mp member)]
        rfl

/-- Intervals that follow each other hold a position once at most. -/
theorem find?_reverse_of_apart {α : Type} {items : List α} {start finish : α → Nat}
    {test : α → Bool} {pos : Nat}
    (apart : items.Pairwise fun left right => finish left < start right)
    (inside : ∀ item, test item = true → start item ≤ pos ∧ pos ≤ finish item) :
    items.reverse.find? test = items.find? test := by
  apply find?_reverse_of_unique
  intro front item back split here other member
  rw [split] at apart
  have beyond : finish item < start other :=
    (List.pairwise_cons.mp (List.pairwise_append.mp apart).2.1).1 other member
  have before := (inside item here).2
  rw [Bool.eq_false_iff]
  intro again
  have behind := (inside other again).1
  omega

theorem init_isProtected (params : FieldParams) :
    (Field.init params).isProtected = params.isProtected := by
  unfold Field.init
  split <;> rfl

namespace ScreenBuffer

/-- The cells of each field and whether it is protected. -/
def layout (screen : ScreenBuffer) : List ((Nat × Nat) × Bool) :=
  screen.fields.map fun field => (field.span screen.cols, field.isProtected)

/-- The layout that the field starts and their attribute bytes give. -/
def markedLayout (screen : ScreenBuffer) : List ((Nat × Nat) × Bool) :=
  (ranges (screen.size - 1) screen.fieldStarts.toList).map fun range =>
    (range, screen.isProtectedCell range.1)

/-- The first field over a position is protected. -/
def protectsAt (pos : Nat) (screen : ScreenBuffer) : Bool :=
  (screen.fields.find? (containsIndex screen.cols pos)).any (·.isProtected)

/-- The fields are those that detection gives, up to their contents and flags, and
the cache knows whether they are protected. -/
structure LaidOut (screen : ScreenBuffer) : Prop where
  layout : screen.layout = screen.markedLayout
  cached : screen.navigationCacheValid = true →
    ∀ pos field, screen.fieldPositionCache pos = some field →
      field.isProtected = screen.protectsAt pos

theorem protectsAt_eq (pos : Nat) (screen : ScreenBuffer) :
    screen.protectsAt pos =
      (screen.layout.find? fun entry => entry.1.1 ≤ pos && pos ≤ entry.1.2).any (·.2) := by
  unfold protectsAt layout
  rw [List.find?_map, Option.any_map]
  rfl

theorem protectsAt_congr {first second : ScreenBuffer}
    (same : second.layout = first.layout) (pos : Nat) :
    second.protectsAt pos = first.protectsAt pos := by
  rw [protectsAt_eq, protectsAt_eq, same]

/-- The lookup agrees with the layout. -/
theorem getFieldAtPosition_isProtected {screen : ScreenBuffer} (laid : screen.LaidOut)
    {row col : Nat} (inside : row < screen.rows ∧ col < screen.cols) :
    (screen.getFieldAtPosition row col).any (·.isProtected) =
      screen.protectsAt (row * screen.cols + col) := by
  unfold getFieldAtPosition
  rw [if_pos inside]
  simp only
  by_cases valid : screen.navigationCacheValid = true
  · rw [if_pos valid]
    cases cached : screen.fieldPositionCache (row * screen.cols + col) with
    | none => rfl
    | some field => exact laid.cached valid _ field cached
  · rw [if_neg valid]
    rfl

theorem createFieldFromRange_isProtected {screen : ScreenBuffer} {startIdx endIdx : Nat}
    {field : Field} (created : screen.createFieldFromRange startIdx endIdx = some field) :
    field.isProtected = screen.isProtectedCell startIdx := by
  have extended : ∀ set params, (applyExtended set params).isProtected =
      params.isProtected := by
    intro set params
    unfold applyExtended
    split
    · rfl
    · split <;> rfl
  unfold createFieldFromRange at created
  split at created
  · cases created
  · cases created
    rw [init_isProtected, extended]
    unfold isProtectedCell
    cases screen.attributes[startIdx * 3]? <;> rfl

theorem detectFields_layout {screen : ScreenBuffer}
    (starts : ∀ start ∈ screen.fieldStarts, start < screen.size) :
    screen.detectFields.layout = screen.markedLayout := by
  refine map_detectedFields starts fun range field created => ?_
  show (field.span screen.cols, _) = _
  rw [(createFieldFromRange_ordered created).2, createFieldFromRange_isProtected created]

theorem containsIndex_iff {cols pos : Nat} {field : Field} :
    containsIndex cols pos field = true ↔
      field.startIndex cols ≤ pos ∧ pos ≤ field.endIndex cols := by
  simp [containsIndex]

theorem detectedFields_apart (screen : ScreenBuffer) :
    screen.detectedFields.Pairwise fun left right =>
      left.endIndex screen.cols < right.startIndex screen.cols := by
  unfold detectedFields
  rw [List.pairwise_filterMap]
  refine (ranges_apart screen.fieldStarts.increasing).imp ?_
  intro first second apart left leftMade right rightMade
  have leftSpan := (createFieldFromRange_ordered leftMade).2
  have rightSpan := (createFieldFromRange_ordered rightMade).2
  have finish : left.endIndex screen.cols = first.2 := congrArg Prod.snd leftSpan
  have start : right.startIndex screen.cols = second.1 := congrArg Prod.fst rightSpan
  omega

theorem detectFields_cache (screen : ScreenBuffer) (pos : Nat) :
    screen.detectFields.fieldPositionCache pos =
      screen.detectFields.fields.find? (containsIndex screen.cols pos) := by
  show screen.detectedFields.reverse.find? _ = screen.detectedFields.find? _
  exact find?_reverse_of_apart screen.detectedFields_apart
    fun _ here => containsIndex_iff.mp here

theorem LaidOut.detectFields {screen : ScreenBuffer}
    (starts : ∀ start ∈ screen.fieldStarts, start < screen.size) :
    screen.detectFields.LaidOut where
  layout := detectFields_layout starts
  cached := by
    intro _ pos field cached
    rw [screen.detectFields_cache] at cached
    unfold protectsAt
    show _ = (screen.detectFields.fields.find? (containsIndex screen.cols pos)).any _
    rw [cached]
    rfl

/-- A screen with the same layout, field starts and frame. -/
structure KeepsLayout (before after : ScreenBuffer) : Prop where
  valid : after.Valid
  laidOut : after.LaidOut
  layout : after.layout = before.layout
  fieldStarts : after.fieldStarts = before.fieldStarts
  rows : after.rows = before.rows
  cols : after.cols = before.cols

theorem KeepsLayout.trans {first second third : ScreenBuffer}
    (left : first.KeepsLayout second) (right : second.KeepsLayout third) :
    first.KeepsLayout third :=
  ⟨right.valid, right.laidOut, right.layout.trans left.layout,
    right.fieldStarts.trans left.fieldStarts, right.rows.trans left.rows,
    right.cols.trans left.cols⟩

theorem KeepsLayout.size {before after : ScreenBuffer} (kept : before.KeepsLayout after) :
    after.size = before.size := by
  unfold ScreenBuffer.size
  rw [kept.rows, kept.cols]

section Write

variable {screen : ScreenBuffer} {byte : UInt8} {row col : Nat}

/-- Without protecting, a write leaves the protection bits alone. -/
theorem typed_isProtectedCell (explicitPosition : Bool) (pos : Nat) :
    (screen.typed byte row col false false explicitPosition).isProtectedCell pos =
      screen.isProtectedCell pos := by
  unfold isProtectedCell
  rw [typed_attribute]
  cases screen.attributes[pos * 3]? with
  | none => rfl
  | some flags => simp

theorem typed_markedLayout (explicitPosition : Bool) :
    (screen.typed byte row col false false explicitPosition).markedLayout =
      screen.markedLayout := by
  unfold markedLayout ScreenBuffer.size
  rw [typed_rows, typed_cols, typed_fieldStarts]
  simp only [typed_isProtectedCell]
  rfl

theorem typed_layout (explicitPosition : Bool) :
    (screen.typed byte row col false false explicitPosition).layout = screen.layout := by
  unfold layout
  rw [typed_fields, typed_cols]

theorem typed_laidOut (explicitPosition : Bool) (laid : screen.LaidOut) :
    (screen.typed byte row col false false explicitPosition).LaidOut where
  layout := by
    rw [typed_layout, typed_markedLayout]
    exact laid.layout
  cached := by
    intro valid pos field cached
    rw [protectsAt_congr (typed_layout explicitPosition)]
    cases explicitPosition <;> exact laid.cached valid pos field cached

/-- Refreshing the fields keeps their layout, also where it detects them. -/
theorem LaidOut.refreshFields (laid : screen.LaidOut)
    (inside : ∀ field ∈ screen.fields, field.InBounds screen.rows screen.cols)
    (starts : ∀ start ∈ screen.fieldStarts, start < screen.size) (row col : Nat) :
    (screen.refreshFields row col).LaidOut ∧
      (screen.refreshFields row col).layout = screen.layout := by
  cases covering : screen.fields.find? (coversPosition row col) with
  | none =>
      have uncovered : ∀ field ∈ screen.fields, coversPosition row col field = false := by
        simpa [List.find?_eq_none] using covering
      rw [refreshFields_of_uncovered uncovered]
      split
      · exact ⟨LaidOut.detectFields starts,
          (detectFields_layout starts).trans laid.layout.symm⟩
      · exact ⟨laid, rfl⟩
  | some field =>
      obtain ⟨covers, front, back, split, notBefore⟩ :=
        List.find?_eq_some_iff_append.mp covering
      have refreshed := refreshFields_of_covered inside split
        (fun other member => by simpa using notBefore other member) covers
      have layout : (screen.refreshFields row col).layout = screen.layout := by
        rw [refreshed]
        unfold ScreenBuffer.layout
        simp only [split, List.map_append, List.map_cons, span_replaceContent]
        congr 3
        exact init_isProtected _
      refine ⟨⟨layout.trans ?_, ?_⟩, layout⟩
      · rw [refreshed]
        exact laid.layout
      · rw [refreshed]
        exact nofun

/-- A write that passes over protection and protects nothing keeps the layout. -/
theorem writeChar_keepsLayout (valid : screen.Valid) (laid : screen.LaidOut)
    (byte : UInt8) (position : Nat × Nat) :
    screen.KeepsLayout (screen.writeChar byte (some position) false true false) := by
  have frame := screen.writeChar_frame byte (some position) false true false
  have kept : (screen.writeChar byte (some position) false true false).LaidOut ∧
      (screen.writeChar byte (some position) false true false).layout = screen.layout := by
    rw [writeChar_eq]
    split
    · obtain ⟨refreshed, layout⟩ := (@typed_laidOut screen byte position.1 position.2 true
        laid).refreshFields (by simpa using valid.fields_inBounds)
        (by
          unfold ScreenBuffer.size
          rw [typed_rows, typed_cols, typed_fieldStarts]
          exact valid.starts_lt) position.1 position.2
      exact ⟨refreshed, layout.trans (typed_layout true)⟩
    · exact ⟨laid, rfl⟩
  refine ⟨valid.writeChar _ _ _ _ _, kept.1, kept.2, ?_, frame.rows, frame.cols⟩
  rw [writeChar_fieldStarts, if_neg (by simp)]

end Write

end ScreenBuffer

end Pure3270

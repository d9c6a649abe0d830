import Pure3270.Protocol.EraseUnprotected

/-!
# What a screen knows of its fields

A short record detects the fields after every attribute, and the orders that look fields up
find those that the record has begun.  While a long record is written there are no fields.
-/

namespace Pure3270

open Foundations

namespace ScreenBuffer

variable {screen : ScreenBuffer}

/-- The fields lie where the marks put them, and the caches say of them what is so. -/
structure Placed (screen : ScreenBuffer) : Prop where
  laidOut : screen.LaidOut
  inputs : screen.navigationCacheValid = true →
    ∀ field, screen.inputFieldsCache.head? = some field →
      (screen.fields.find? fun field => !field.isProtected).map (·.start) = some field.start

/-- The fields are placed, and detection is not suspended. -/
structure KnowsFields (screen : ScreenBuffer) : Prop extends Placed screen where
  resumed : screen.suspendFieldDetection = 0

/-- While detection is suspended there are no fields. -/
structure HidesFields (screen : ScreenBuffer) : Prop where
  fields : screen.fields = []
  positions : ∀ pos, screen.fieldPositionCache pos = none
  inputs : screen.inputFieldsCache = []
  suspended : screen.suspendFieldDetection = 1

def Looks : Bool → ScreenBuffer → Prop
  | true => KnowsFields
  | false => HidesFields

theorem LaidOut.starts (laid : screen.LaidOut) :
    screen.fields.map (Field.startIndex screen.cols) = screen.fieldStarts.toList := by
  have first := congrArg (List.map fun entry => entry.1.1) laid.layout
  unfold ScreenBuffer.layout markedLayout at first
  rw [List.map_map, List.map_map] at first
  refine first.trans ?_
  exact map_fst_ranges (screen.size - 1) screen.fieldStarts.toList

theorem LaidOut.ordered (laid : screen.LaidOut) :
    screen.fields.Pairwise fun left right =>
      left.startIndex screen.cols < right.startIndex screen.cols := by
  apply List.pairwise_map.mp
  rw [laid.starts]
  exact screen.fieldStarts.increasing

theorem sortByStart_of_ordered {cols : Nat} {fields : List Field}
    (ordered : fields.Pairwise fun left right => left.startIndex cols < right.startIndex cols) :
    sortByStart cols fields = fields :=
  List.Pairwise.insertionSort_eq (ordered.imp fun below => Nat.le_of_lt below)

theorem Placed.blank (fields : screen.fields = [])
    (starts : screen.fieldStarts = SortedSet.empty)
    (positions : ∀ pos, screen.fieldPositionCache pos = none)
    (inputs : screen.inputFieldsCache = []) : screen.Placed where
  laidOut := by
    constructor
    · unfold ScreenBuffer.layout markedLayout
      rw [fields, starts]
      rfl
    · intro _ pos field cached
      rw [positions] at cached
      cases cached
  inputs := by
    intro _ field first
    rw [inputs] at first
    cases first

theorem Placed.detectFields (starts : ∀ start ∈ screen.fieldStarts, start < screen.size) :
    screen.detectFields.Placed where
  laidOut := LaidOut.detectFields starts
  inputs := by
    intro _ field first
    have ordered := (LaidOut.detectFields starts).ordered
    change (sortByStart screen.detectFields.cols
      (screen.detectFields.fields.filter _)).head? = _ at first
    rw [sortByStart_of_ordered (ordered.filter _), List.head?_filter] at first
    rw [first]
    rfl

theorem size_congr {after : ScreenBuffer} (rows : after.rows = screen.rows)
    (cols : after.cols = screen.cols) : after.size = screen.size := by
  unfold ScreenBuffer.size
  rw [rows, cols]

/-- Nothing changed that the fields depend on. -/
structure SameFields (before after : ScreenBuffer) : Prop where
  rows : after.rows = before.rows
  cols : after.cols = before.cols
  attributes : after.attributes = before.attributes
  starts : after.fieldStarts = before.fieldStarts
  fields : after.fields = before.fields
  ascii : after.asciiFields = before.asciiFields
  positions : after.fieldPositionCache = before.fieldPositionCache
  inputs : after.inputFieldsCache = before.inputFieldsCache
  navigation : after.navigationCacheValid = before.navigationCacheValid
  suspended : after.suspendFieldDetection = before.suspendFieldDetection

namespace SameFields

variable {after : ScreenBuffer} (same : SameFields screen after)

include same

theorem size : after.size = screen.size :=
  size_congr same.rows same.cols

theorem layout : after.layout = screen.layout := by
  unfold ScreenBuffer.layout
  rw [same.fields, same.cols]

theorem laidOut (laid : screen.LaidOut) : after.LaidOut where
  layout := by
    rw [same.layout, laid.layout]
    unfold markedLayout isProtectedCell
    rw [same.size, same.starts, same.attributes]
  cached := by
    intro valid pos field cached
    rw [protectsAt_congr same.layout]
    rw [same.navigation] at valid
    rw [same.positions] at cached
    exact laid.cached valid pos field cached

theorem placed (placed : screen.Placed) : after.Placed where
  laidOut := same.laidOut placed.laidOut
  inputs := by
    rw [same.navigation, same.inputs, same.fields]
    exact placed.inputs

theorem looks {looksUp : Bool} (looks : screen.Looks looksUp) : after.Looks looksUp := by
  cases looksUp with
  | true => exact ⟨same.placed looks.toPlaced, same.suspended.trans looks.resumed⟩
  | false =>
      constructor
      · rw [same.fields]
        exact looks.fields
      · rw [same.positions]
        exact looks.positions
      · rw [same.inputs]
        exact looks.inputs
      · rw [same.suspended]
        exact looks.suspended

end SameFields

theorem sameFields_setPosition (row col : Nat) :
    SameFields screen (screen.setPosition row col) :=
  ⟨rfl, rfl, rfl, rfl, rfl, rfl, rfl, rfl, rfl, rfl⟩

theorem sameFields_moveCursorTo (position : Nat × Nat) :
    SameFields screen (screen.moveCursorTo position) :=
  ⟨rfl, rfl, rfl, rfl, rfl, rfl, rfl, rfl, rfl, rfl⟩

theorem sameFields_insertByte (byte : UInt8) :
    SameFields screen (screen.insertByte byte) := by
  unfold insertByte
  simp only
  split <;> exact ⟨rfl, rfl, rfl, rfl, rfl, rfl, rfl, rfl, rfl, rfl⟩

theorem sameFields_setExtended (attrType attrValue : UInt8)
    (position : Option (Nat × Nat)) :
    SameFields screen (screen.setExtendedAttributeSfe attrType attrValue position) := by
  unfold setExtendedAttributeSfe
  simp only
  split <;> exact ⟨rfl, rfl, rfl, rfl, rfl, rfl, rfl, rfl, rfl, rfl⟩

theorem Looks.setAttribute {looksUp : Bool} (valid : screen.Valid)
    (looks : screen.Looks looksUp) (attr : UInt8) :
    (screen.setAttribute attr none).Looks looksUp := by
  have inside : screen.getPosition.1 * screen.cols + screen.getPosition.2 < screen.size :=
    valid.cursorAddress_lt
  have stored := valid.storeAttribute attr inside
  unfold ScreenBuffer.setAttribute
  simp only [Option.getD_none]
  rw [if_pos inside]
  cases looksUp with
  | true =>
      rw [if_pos looks.resumed]
      exact ⟨Placed.detectFields stored.starts_lt, looks.resumed⟩
  | false =>
      have suspended := looks.suspended
      rw [if_neg (by omega)]
      exact ⟨looks.fields, looks.positions, looks.inputs, suspended⟩

theorem Placed.refreshFields (placed : screen.Placed)
    (inside : ∀ field ∈ screen.fields, field.InBounds screen.rows screen.cols)
    (starts : ∀ start ∈ screen.fieldStarts, start < screen.size) (row col : Nat) :
    (screen.refreshFields row col).Placed := by
  obtain ⟨laid, -⟩ := placed.laidOut.refreshFields inside starts row col
  cases covering : screen.fields.find? (coversPosition row col) with
  | none =>
      have uncovered : ∀ field ∈ screen.fields, coversPosition row col field = false := by
        simpa [List.find?_eq_none] using covering
      rw [refreshFields_of_uncovered uncovered]
      split
      · exact Placed.detectFields starts
      · exact placed
  | some field =>
      obtain ⟨covers, front, back, split, notBefore⟩ :=
        List.find?_eq_some_iff_append.mp covering
      have refreshed := refreshFields_of_covered inside split
        (fun other member => by simpa using notBefore other member) covers
      rw [refreshed] at laid ⊢
      exact ⟨laid, nofun⟩

/-- An erase of a cell leaves the fields where they are. -/
theorem Placed.eraseCell (valid : screen.Valid) (placed : screen.Placed)
    (position : Nat × Nat) : (screen.change (.eraseCell position)).Placed := by
  change (screen.writeChar 0x40 (some position) false true false).Placed
  rw [writeChar_eq]
  split
  · have typed : (screen.typed 0x40 position.1 position.2 false false true).Placed :=
      ⟨typed_laidOut true placed.laidOut, placed.inputs⟩
    refine typed.refreshFields (by simpa using valid.fields_inBounds) ?_ position.1 position.2
    unfold ScreenBuffer.size
    rw [typed_rows, typed_cols, typed_fieldStarts]
    exact valid.starts_lt
  · exact placed

theorem eraseCell_attributes (position : Nat × Nat) (screen : ScreenBuffer) (pos : Nat) :
    (screen.change (.eraseCell position)).attributes[pos * 3]? =
      screen.attributes[pos * 3]? := by
  change (screen.writeChar 0x40 (some position) false true false).attributes[pos * 3]? = _
  rw [writeChar_eq]
  split
  · obtain ⟨_, _, _, _, same⟩ := refreshFields_lists position.1 position.2
      (screen.typed 0x40 position.1 position.2 false false true)
    rw [Option.getD_some, Option.isSome_some, same]
    simp only [typed_attribute]
    cases screen.attributes[pos * 3]? with
    | none => rfl
    | some flags => simp
  · rfl

theorem Looks.eraseCell {looksUp : Bool} (valid : screen.Valid)
    (looks : screen.Looks looksUp) (position : Nat × Nat) :
    (screen.change (.eraseCell position)).Looks looksUp := by
  have frame := (screen.change_frame (.eraseCell position)).suspended
  cases looksUp with
  | true => exact ⟨looks.toPlaced.eraseCell valid position, frame.trans looks.resumed⟩
  | false =>
      change (screen.writeChar 0x40 (some position) false true false).HidesFields
      rw [writeChar_eq]
      split
      · have typed : (screen.typed 0x40 position.1 position.2 false false true).HidesFields :=
          ⟨looks.fields, looks.positions, looks.inputs, looks.suspended⟩
        have suspended := typed.suspended
        rw [Option.getD_some, Option.isSome_some,
          refreshFields_of_uncovered (by rw [typed.fields]; simp), if_neg (by omega)]
        exact typed
      · exact looks

end ScreenBuffer

namespace DataStreamParser

open ScreenBuffer

theorem erased_caches (data : List UInt8) (screen : ScreenBuffer) :
    (∀ pos, (screen.erased data).fieldPositionCache pos = none) ∧
      (screen.erased data).inputFieldsCache = [] ∧
        (screen.erased data).asciiFields = screen.asciiFields := by
  unfold ScreenBuffer.erased
  split <;> exact ⟨fun _ => rfl, rfl, rfl⟩

theorem applyWcc_caches (wcc : UInt8) (screen : ScreenBuffer) :
    SameFields screen (screen.applyWcc wcc) := by
  unfold ScreenBuffer.applyWcc
  split <;> exact ⟨rfl, rfl, rfl, rfl, rfl, rfl, rfl, rfl, rfl, rfl⟩

end DataStreamParser

end Pure3270

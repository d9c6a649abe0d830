import Pure3270.Emulation.TrackedFields
import Pure3270.Foundations.Runs
import Pure3270.Protocol.ScreenChanges

/-!
# Cached field lookup

A field that is selected or modified is replaced in the list, while the valid cache
goes on with the object that was there before.  The lookup then gives a field that
is not one of the list, and a flag set on the new one does not show.
-/

namespace Pure3270

open Foundations

/-- `_replace(modified=True)`. -/
def Field.replaceModified (field : Field) : Field :=
  init { field.toFieldParams with
    bypass := false
    hidden := false
    codepage := "cp037"
    modified := true }

theorem Field.span_replaceModified (field : Field) (cols : Nat) :
    field.replaceModified.span cols = field.span cols :=
  ScreenBuffer.span_init _ _ field.ordered

theorem findIdx?_append_cons {α : Type} {test : α → Bool} {front back : List α} {item : α}
    (before : ∀ other ∈ front, test other = false) (here : test item = true) :
    (front ++ item :: back).findIdx? test = some front.length := by
  have missed : front.findIdx? test = none := List.findIdx?_eq_none_iff.mpr before
  rw [List.findIdx?_append, missed, List.findIdx?_cons, if_pos here]
  simp

/-- Replacing the elements that are equal to one replaces the first of them. -/
theorem replaceF_of_split {fields front back : List Field} {field : Field} (new : Field)
    (split : fields = front ++ field :: back) (different : ∀ other ∈ front, other ≠ field) :
    fields.replaceF (fun other => if other = field then some new else none) =
      fields.set front.length new := by
  have there : fields[front.length]? = some field := by
    rw [split]
    simp
  refine replaceF_eq_set ?_ there (if_pos rfl)
  rw [split]
  refine findIdx?_append_cons (fun other member => ?_) ?_
  · rw [if_neg (different other member)]
    rfl
  · rw [if_pos rfl]
    rfl

namespace FieldObjects

variable {objects : FieldObjects} {cols pos reference : Nat} {value : Field}

/-- What a search finds stands in the list behind fields that it passed over. -/
theorem scan_split (found : objects.scan cols pos = some reference) :
    ∃ front back, objects.fields = front ++ reference :: back ∧
      objects.contains cols pos reference = true ∧
      ∀ other ∈ front, objects.contains cols pos other = false := by
  obtain ⟨here, front, back, split, before⟩ := List.find?_eq_some_iff_append.mp found
  exact ⟨front, back, split, here, fun other member => by simpa using before other member⟩

theorem replaceObject_of_scan (found : objects.scan cols pos = some reference) (value : Field) :
    ∃ front back, objects.fields = front ++ reference :: back ∧
      (∀ other ∈ front, objects.contains cols pos other = false) ∧
      objects.replaceObject reference value = objects.replaceAt front.length value := by
  obtain ⟨front, back, split, here, before⟩ := scan_split found
  refine ⟨front, back, split, before, ?_⟩
  have index : objects.fields.idxOf? reference = some front.length := by
    rw [split]
    refine findIdx?_append_cons (fun other member => ?_) (beq_self_eq_true reference)
    rw [beq_eq_false_iff_ne]
    rintro rfl
    exact absurd ((before other member).symm.trans here) nofun
  unfold replaceObject
  rw [index]

/-- After a replacement the search finds the new object. -/
theorem scan_replaceObject (found : objects.scan cols pos = some reference)
    (held : ∀ field ∈ objects.fields, objects.heap.Holds field)
    (contains : ScreenBuffer.containsIndex cols pos value = true) :
    (objects.replaceObject reference value).scan cols pos = some objects.heap.next := by
  obtain ⟨front, back, split, before, replaced⟩ := replaceObject_of_scan found value
  rw [replaced]
  have fields : (objects.replaceAt front.length value).fields =
      front ++ objects.heap.next :: back := by
    show objects.fields.set front.length objects.heap.next = _
    rw [split]
    simp
  unfold scan
  rw [fields, List.find?_eq_some_iff_append]
  refine ⟨?_, front, back, rfl, fun other member => ?_⟩
  · show ScreenBuffer.containsIndex cols pos
      ((objects.heap.allocate value).object objects.heap.next) = true
    rw [ObjectHeap.object_allocate]
    exact contains
  · have holds := held other (by rw [split]; exact List.mem_append_left _ member)
    show (!ScreenBuffer.containsIndex cols pos
      ((objects.heap.allocate value).object other)) = true
    rw [holds.object_allocate]
    have missed : ScreenBuffer.containsIndex cols pos (objects.heap.object other) = false :=
      before other member
    rw [missed]
    rfl

end FieldObjects

namespace ScreenBuffer

/-- The position behind another one; the row is not wrapped. -/
def rmfNext (cols : Nat) (position : Nat × Nat) : Nat × Nat :=
  if cols ≤ position.2 + 1 then (position.1 + 1, 0) else (position.1, position.2 + 1)

def rmfRepeat (repeatCount : UInt8) (screen : ScreenBuffer) : Nat :=
  min repeatCount.toNat (screen.cols * screen.rows - screen.cursorCol)

/-- Where RMF counts itself to, unless an insertion off the screen raises. -/
def rmfStop (repeatCount attrByte : UInt8) (screen : ScreenBuffer) : Option (Nat × Nat) :=
  if attrByte ≠ 0x00 ∧ 0 < screen.rmfRepeat repeatCount ∧
      ¬ (screen.cursorRow < screen.rows ∧ screen.cursorCol < screen.cols) then none
  else some ((rmfNext screen.cols)^[screen.rmfRepeat repeatCount] screen.getPosition)

/-- The data of RMF and the cursor behind it. -/
def rmfInsert (repeatCount attrByte : UInt8) (stop : Nat × Nat) (screen : ScreenBuffer) :
    ScreenBuffer :=
  (screen.repeatData attrByte (screen.rmfRepeat repeatCount)).setPosition stop.1 stop.2

theorem repeatData_sameIndex (byte : UInt8) (count : Nat) (screen : ScreenBuffer) :
    SameIndex screen (screen.repeatData byte count) ∧
      (screen.repeatData byte count).navigationCacheValid = screen.navigationCacheValid := by
  induction count generalizing screen with
  | zero => exact ⟨.refl _, rfl⟩
  | succ count ih =>
      have stored : SameIndex screen (screen.storeData byte) ∧
          (screen.storeData byte).navigationCacheValid = screen.navigationCacheValid := by
        unfold storeData insertByte
        dsimp only
        split
        · exact ⟨.refl _, rfl⟩
        · split <;> exact ⟨⟨rfl, rfl, rfl, rfl, rfl⟩, rfl⟩
      obtain ⟨same, valid⟩ := ih (screen.storeData byte)
      exact ⟨stored.1.trans same, valid.trans stored.2⟩

/-- The changes of MF at the field start that it resolves. -/
def modifyField (target : Nat × Nat) (pairs : List (UInt8 × UInt8)) (screen : ScreenBuffer) :
    ScreenBuffer :=
  screen.changes (pairs.map fun pair => .setExtended pair.1 pair.2 (some target))

theorem modifyField_sameIndex (target : Nat × Nat) (pairs : List (UInt8 × UInt8))
    (screen : ScreenBuffer) :
    SameIndex screen (screen.modifyField target pairs) ∧
      (screen.modifyField target pairs).navigationCacheValid =
        screen.navigationCacheValid := by
  induction pairs generalizing screen with
  | nil => exact ⟨.refl _, rfl⟩
  | cons pair pairs ih =>
      have here : SameIndex screen
            (screen.setExtendedAttributeSfe pair.1 pair.2 (some target)) ∧
          (screen.setExtendedAttributeSfe pair.1 pair.2
            (some target)).navigationCacheValid = screen.navigationCacheValid := by
        unfold setExtendedAttributeSfe
        dsimp only
        split <;> exact ⟨⟨rfl, rfl, rfl, rfl, rfl⟩, rfl⟩
      obtain ⟨same, valid⟩ :=
        ih (screen.setExtendedAttributeSfe pair.1 pair.2 (some target))
      exact ⟨here.1.trans same, valid.trans here.2⟩

theorem startField_describes (attr : UInt8) (screen : ScreenBuffer) :
    Describes screen (screen.startField attr) (screen.attributeEffect none) := by
  unfold startField
  generalize outcome : screen.setAttribute attr none = started
  have described := setAttribute_describes attr none screen
  rw [outcome] at described
  revert described
  generalize screen.attributeEffect none = effect
  rintro (⟨same, valid⟩ | ⟨source, same⟩ | ⟨field, below, same, invalid⟩)
  · exact .keep (same.trans ⟨rfl, rfl, rfl, rfl, rfl⟩) valid
  · exact .detect source (same.trans ⟨rfl, rfl, rfl, rfl, rfl⟩)
  · exact .replace field below (same.trans ⟨rfl, rfl, rfl, rfl, rfl⟩) invalid

end ScreenBuffer

namespace TrackedScreen

def detectFields (tracked : TrackedScreen) : TrackedScreen :=
  tracked.follow tracked.screen.detectFields .detect

/-- `select_light_pen`: the field found is replaced in the list. -/
def selectLightPen (row col : Nat) (tracked : TrackedScreen) : TrackedScreen :=
  let detected := tracked.detectFields
  match detected.getFieldAtPosition row col with
  | none => detected
  | some field =>
      let value := detected.objects.heap.object field
      if value.lightPen ≠ 0 then
        { screen := (tracked.screen.selectLightPen row col).1
          objects := detected.objects.replaceObject field value.replaceSelected }
      else detected

/-- The tracked screen before RMF looks for its field. -/
def rmfInserted (repeatCount attrByte : UInt8) (stop : Nat × Nat) (tracked : TrackedScreen) :
    TrackedScreen :=
  tracked.follow (tracked.screen.rmfInsert repeatCount attrByte stop) .keep

/-- The loop of RMF over the field list. -/
def markModified (reference : Nat) (tracked : TrackedScreen) : TrackedScreen :=
  let objects := tracked.objects.replaceObject reference
    (tracked.objects.heap.object reference).replaceModified
  { screen := { tracked.screen with fields := objects.fields.map objects.heap.object }
    objects }

/-- `_handle_rmf`: the field at the position counted to is replaced in the list. -/
def handleRmf (repeatCount attrByte : UInt8) (tracked : TrackedScreen) : TrackedScreen :=
  match tracked.screen.rmfStop repeatCount attrByte with
  | none => tracked
  | some stop =>
      let inserted := tracked.rmfInserted repeatCount attrByte stop
      match inserted.getFieldAtPosition stop.1 stop.2 with
      | none => inserted
      | some field => inserted.markModified field

/-- An operation of the screen or an order of the parser. -/
inductive Call where
  | mutate (mutation : ScreenBuffer.ScreenMutation)
  | setAsciiMode (asciiMode : Bool)
  | setKeyboardLock (locked : Bool)
  | startField (attr : UInt8)
  | modifyField (target : Nat × Nat) (pairs : List (UInt8 × UInt8))
  | repeatModify (repeatCount attrByte : UInt8)
  deriving DecidableEq

def call : Call → TrackedScreen → TrackedScreen
  | .mutate (.operation (.selectLightPen row col)), tracked => tracked.selectLightPen row col
  | .mutate mutation, tracked =>
      tracked.follow (tracked.screen.mutate mutation) (tracked.screen.mutationEffect mutation)
  | .setAsciiMode asciiMode, tracked =>
      tracked.follow (tracked.screen.setAsciiMode asciiMode) .keep
  | .setKeyboardLock locked, tracked =>
      tracked.follow (tracked.screen.setKeyboardLock locked) .keep
  | .startField attr, tracked =>
      tracked.follow (tracked.screen.startField attr) (tracked.screen.attributeEffect none)
  | .modifyField target pairs, tracked =>
      tracked.follow (tracked.screen.modifyField target pairs) .keep
  | .repeatModify repeatCount attrByte, tracked => tracked.handleRmf repeatCount attrByte

/-- The call replaces no field that a valid cache holds: the light pen selects no
field, and RMF does not stop in a field while the cache is valid. -/
def LeavesCaches : Call → TrackedScreen → Prop
  | .mutate (.operation (.selectLightPen row col)), tracked =>
      row < tracked.screen.rows → col < tracked.screen.cols →
        ∀ field, tracked.screen.detectedFields.find?
          (ScreenBuffer.containsIndex tracked.screen.cols
            (row * tracked.screen.cols + col)) = some field → field.lightPen = 0
  | .repeatModify repeatCount attrByte, tracked =>
      tracked.screen.navigationCacheValid = true →
        ∀ stop, tracked.screen.rmfStop repeatCount attrByte = some stop →
          stop.1 < tracked.screen.rows → stop.2 < tracked.screen.cols →
            ∀ field ∈ tracked.screen.fields,
              ScreenBuffer.containsIndex tracked.screen.cols
                (stop.1 * tracked.screen.cols + stop.2) field = false
  | _, _ => True

/-- A new screen without fields. -/
def init (rows cols : Nat) (rows_pos : 0 < rows) (cols_pos : 0 < cols)
    (initValue : UInt8) (codepage : String) : TrackedScreen where
  screen := ScreenBuffer.init rows cols rows_pos cols_pos initValue codepage
  objects := FieldObjects.empty

section Replace

variable {tracked : TrackedScreen} {row col reference : Nat}

/-- The lookup by value is the lookup by reference. -/
theorem Coherent.getFieldAtPosition (coherent : tracked.Coherent) (row col : Nat) :
    tracked.screen.getFieldAtPosition row col =
      (tracked.getFieldAtPosition row col).map tracked.objects.heap.object := by
  have scanned : ∀ pos, tracked.screen.fields.find?
      (ScreenBuffer.containsIndex tracked.screen.cols pos) =
        (tracked.objects.scan tracked.screen.cols pos).map tracked.objects.heap.object := by
    intro pos
    rw [coherent.fields, List.find?_map]
    rfl
  unfold ScreenBuffer.getFieldAtPosition TrackedScreen.getFieldAtPosition
  dsimp only
  by_cases inside : row < tracked.screen.rows ∧ col < tracked.screen.cols
  · rw [if_pos inside, if_pos inside]
    cases valid : tracked.screen.navigationCacheValid with
    | false => exact scanned _
    | true =>
        simp only [if_true]
        rw [coherent.cached]
        cases tracked.objects.positionCache (row * tracked.screen.cols + col) with
        | none => exact scanned _
        | some field => rfl
  · rw [if_neg inside, if_neg inside]
    rfl

theorem getFieldAtPosition_inside (found : tracked.getFieldAtPosition row col = some reference) :
    row < tracked.screen.rows ∧ col < tracked.screen.cols := by
  by_contra outside
  unfold TrackedScreen.getFieldAtPosition at found
  dsimp only at found
  rw [if_neg outside] at found
  cases found

theorem AgreesWithScan.scan (agrees : tracked.AgreesWithScan)
    (found : tracked.getFieldAtPosition row col = some reference) :
    tracked.objects.scan tracked.screen.cols (row * tracked.screen.cols + col) =
      some reference := by
  obtain ⟨rowInside, colInside⟩ := getFieldAtPosition_inside found
  exact (agrees.lookup row col rowInside colInside).symm.trans found

theorem Covered.cached (covered : tracked.Covered) (agrees : tracked.AgreesWithScan)
    (valid : tracked.screen.navigationCacheValid = true)
    (found : tracked.getFieldAtPosition row col = some reference) :
    tracked.objects.positionCache (row * tracked.screen.cols + col) = some reference := by
  have scanned := agrees.scan found
  have looked := found
  unfold TrackedScreen.getFieldAtPosition at looked
  dsimp only at looked
  rw [if_pos (getFieldAtPosition_inside found), valid, if_pos rfl] at looked
  cases cached : tracked.objects.positionCache (row * tracked.screen.cols + col) with
  | none =>
      rw [covered valid _ cached] at scanned
      cases scanned
  | some field =>
      rw [cached] at looked
      exact looked

/-- Replacing a field that a valid cache holds leaves the lookup with the old one. -/
theorem not_agreesWithScan_replaceObject (coherent : tracked.Coherent)
    (covered : tracked.Covered) (agrees : tracked.AgreesWithScan)
    (valid : tracked.screen.navigationCacheValid = true)
    (found : tracked.getFieldAtPosition row col = some reference) {value : Field}
    (span : value.span tracked.screen.cols =
      (tracked.objects.heap.object reference).span tracked.screen.cols)
    {after : ScreenBuffer} (rows : after.rows = tracked.screen.rows)
    (cols : after.cols = tracked.screen.cols) (kept : after.navigationCacheValid = true) :
    ¬ AgreesWithScan
      { screen := after, objects := tracked.objects.replaceObject reference value } := by
  intro claimed
  obtain ⟨rowInside, colInside⟩ := getFieldAtPosition_inside found
  have cached := covered.cached agrees valid found
  have scanned := agrees.scan found
  have contains : ScreenBuffer.containsIndex tracked.screen.cols
      (row * tracked.screen.cols + col) value = true := by
    obtain ⟨_, _, _, here, _⟩ := FieldObjects.scan_split scanned
    have inside := ScreenBuffer.containsIndex_iff.mp here
    have start : value.startIndex tracked.screen.cols = _ := congrArg Prod.fst span
    have finish : value.endIndex tracked.screen.cols = _ := congrArg Prod.snd span
    refine ScreenBuffer.containsIndex_iff.mpr ?_
    rw [start, finish]
    exact inside
  have searched := FieldObjects.scan_replaceObject scanned coherent.fields_held contains
  have looked := claimed.lookup row col (rows ▸ rowInside) (cols ▸ colInside)
  obtain ⟨front, _, _, _, replaced⟩ := FieldObjects.replaceObject_of_scan scanned value
  have cache : (tracked.objects.replaceObject reference value).positionCache =
      tracked.objects.positionCache := by
    rw [replaced]
    rfl
  unfold TrackedScreen.getFieldAtPosition at looked
  dsimp only at looked
  rw [rows, cols, if_pos ⟨rowInside, colInside⟩, kept, if_pos rfl, cache, cached,
    searched] at looked
  exact (coherent.cached_held _ _ cached).ne_next (Option.some.inj looked).symm

end Replace

section LightPen

variable (tracked : TrackedScreen) (row col : Nat)

theorem detectFields_agrees : tracked.detectFields.AgreesWithScan ∧
    tracked.detectFields.Covered ∧ tracked.detectFields.Coherent :=
  have agrees := agreesWithScan_detect (.refl tracked.screen.detectFields) tracked
  ⟨agrees.1, agrees.2, coherent_detect (.refl tracked.screen.detectFields) tracked⟩

/-- What the lookup finds after detection is the field the detection made there. -/
theorem detectFields_find (inside : row < tracked.screen.rows ∧ col < tracked.screen.cols) :
    (tracked.detectFields.getFieldAtPosition row col).map
        tracked.detectFields.objects.heap.object =
      tracked.screen.detectedFields.find? (ScreenBuffer.containsIndex tracked.screen.cols
        (row * tracked.screen.cols + col)) := by
  obtain ⟨agrees, _, coherent⟩ := tracked.detectFields_agrees
  have fields : tracked.screen.detectedFields = _ := coherent.fields
  rw [agrees.lookup row col inside.1 inside.2, fields, List.find?_map]
  rfl

variable {tracked row col}

theorem detectFields_valid {reference : Nat}
    (found : tracked.detectFields.getFieldAtPosition row col = some reference) :
    tracked.detectFields.screen.navigationCacheValid = true := by
  have inside : row < tracked.screen.rows ∧ col < tracked.screen.cols :=
    @getFieldAtPosition_inside tracked.detectFields _ _ _ found
  have here := tracked.detectFields_find row col inside
  rw [found] at here
  show (if tracked.screen.fieldStarts.toList = [] then _ else true) = true
  split
  · rename_i empty
    have none : tracked.screen.detectedFields = [] := by
      unfold ScreenBuffer.detectedFields
      rw [empty]
      rfl
    rw [none] at here
    cases here
  · rfl

variable (tracked row col)

theorem selectLightPen_cases :
    (tracked.selectLightPen row col = tracked.detectFields ∧
        ∀ reference, tracked.detectFields.getFieldAtPosition row col = some reference →
          (tracked.detectFields.objects.heap.object reference).lightPen = 0) ∨
      ∃ reference, tracked.detectFields.getFieldAtPosition row col = some reference ∧
        (tracked.detectFields.objects.heap.object reference).lightPen ≠ 0 ∧
        tracked.selectLightPen row col =
          { screen := (tracked.screen.selectLightPen row col).1
            objects := tracked.detectFields.objects.replaceObject reference
              (tracked.detectFields.objects.heap.object reference).replaceSelected } := by
  unfold selectLightPen
  dsimp only
  cases found : tracked.detectFields.getFieldAtPosition row col with
  | none => exact .inl ⟨rfl, nofun⟩
  | some reference =>
      by_cases selectable :
          (tracked.detectFields.objects.heap.object reference).lightPen = 0
      · exact .inl ⟨if_neg (not_not.mpr selectable), fun other same => by
          cases same
          exact selectable⟩
      · exact .inr ⟨reference, rfl, selectable, if_pos selectable⟩

variable {tracked row col}

/-- Selecting puts the selected field into the list and leaves the caches alone. -/
theorem selectLightPen_screen {reference : Nat}
    (found : tracked.detectFields.getFieldAtPosition row col = some reference)
    (selectable : (tracked.detectFields.objects.heap.object reference).lightPen ≠ 0) :
    ∃ index, tracked.detectFields.objects.replaceObject reference
        (tracked.detectFields.objects.heap.object reference).replaceSelected =
        tracked.detectFields.objects.replaceAt index
          (tracked.detectFields.objects.heap.object reference).replaceSelected ∧
      ScreenBuffer.SameIndex
        { tracked.screen.detectFields with
          fields := tracked.screen.detectFields.fields.set index
            (tracked.detectFields.objects.heap.object reference).replaceSelected }
        (tracked.screen.selectLightPen row col).1 ∧
      (tracked.screen.selectLightPen row col).1.navigationCacheValid =
        tracked.screen.detectFields.navigationCacheValid := by
  obtain ⟨agrees, _, coherent⟩ := tracked.detectFields_agrees
  have scanned := agrees.scan found
  obtain ⟨front, back, split, before, replaced⟩ := FieldObjects.replaceObject_of_scan scanned
    (tracked.detectFields.objects.heap.object reference).replaceSelected
  obtain ⟨_, _, _, here, _⟩ := FieldObjects.scan_split scanned
  have looked : tracked.screen.detectFields.getFieldAtPosition row col =
      some (tracked.detectFields.objects.heap.object reference) := by
    have same := coherent.getFieldAtPosition row col
    rw [found] at same
    exact same
  have fields : tracked.screen.detectFields.fields =
      front.map tracked.detectFields.objects.heap.object ++
        tracked.detectFields.objects.heap.object reference ::
          back.map tracked.detectFields.objects.heap.object := by
    have mapped : tracked.screen.detectFields.fields = _ := coherent.fields
    rw [mapped, split]
    simp
  have different : ∀ other ∈ front.map tracked.detectFields.objects.heap.object,
      other ≠ tracked.detectFields.objects.heap.object reference := by
    rintro _ member rfl
    obtain ⟨earlier, among, same⟩ := List.mem_map.mp member
    have missed := before earlier among
    unfold FieldObjects.contains at here missed
    rw [same, here] at missed
    cases missed
  have set := replaceF_of_split
    (tracked.detectFields.objects.heap.object reference).replaceSelected fields different
  rw [List.length_map] at set
  refine ⟨front.length, replaced, ?_⟩
  unfold ScreenBuffer.selectLightPen
  dsimp only
  rw [looked]
  dsimp only
  rw [if_pos selectable, set]
  exact ⟨⟨rfl, rfl, rfl, rfl, rfl⟩, rfl⟩

theorem leavesCaches_selectLightPen_iff :
    LeavesCaches (.mutate (.operation (.selectLightPen row col))) tracked ↔
      ∀ reference, tracked.detectFields.getFieldAtPosition row col = some reference →
        (tracked.detectFields.objects.heap.object reference).lightPen = 0 := by
  constructor
  · intro leaves reference found
    have inside : row < tracked.screen.rows ∧ col < tracked.screen.cols :=
      @getFieldAtPosition_inside tracked.detectFields _ _ _ found
    have here := tracked.detectFields_find row col inside
    rw [found] at here
    exact leaves inside.1 inside.2 _ here.symm
  · intro unselectable rowInside colInside field here
    rw [← tracked.detectFields_find row col ⟨rowInside, colInside⟩] at here
    obtain ⟨reference, found, rfl⟩ := Option.map_eq_some_iff.mp here
    exact unselectable reference found

theorem selectLightPen_of_leaves
    (leaves : LeavesCaches (.mutate (.operation (.selectLightPen row col))) tracked) :
    tracked.selectLightPen row col = tracked.detectFields := by
  rcases tracked.selectLightPen_cases row col with
    ⟨same, _⟩ | ⟨reference, found, selectable, _⟩
  · exact same
  · exact absurd (leavesCaches_selectLightPen_iff.mp leaves reference found) selectable

theorem selectLightPen_coherent : (tracked.selectLightPen row col).Coherent := by
  obtain ⟨_, _, coherent⟩ := tracked.detectFields_agrees
  rcases tracked.selectLightPen_cases row col with
    ⟨same, _⟩ | ⟨reference, found, selectable, same⟩
  · rw [same]
    exact coherent
  · obtain ⟨index, replaced, index_same, _⟩ := selectLightPen_screen found selectable
    rw [same, replaced]
    exact coherent.replaceAt index_same

theorem selectLightPen_agrees_iff :
    (tracked.selectLightPen row col).AgreesWithScan ↔
      LeavesCaches (.mutate (.operation (.selectLightPen row col))) tracked := by
  obtain ⟨agrees, covered, coherent⟩ := tracked.detectFields_agrees
  rw [leavesCaches_selectLightPen_iff]
  rcases tracked.selectLightPen_cases row col with
    ⟨same, unselectable⟩ | ⟨reference, found, selectable, same⟩
  · rw [same]
    exact iff_of_true agrees unselectable
  · obtain ⟨_, _, screen, valid⟩ := selectLightPen_screen found selectable
    have before := detectFields_valid found
    rw [same]
    refine iff_of_false ?_ fun unselectable => selectable (unselectable reference found)
    exact not_agreesWithScan_replaceObject coherent covered agrees before found
      (ScreenBuffer.span_replaceSelected _ _) screen.rows screen.cols (valid.trans before)

end LightPen

section Rmf

variable {tracked : TrackedScreen} {repeatCount attrByte : UInt8}

theorem rmfInsert_describes (repeatCount attrByte : UInt8) (stop : Nat × Nat)
    (screen : ScreenBuffer) :
    screen.Describes (screen.rmfInsert repeatCount attrByte stop) .keep ∧
      (screen.rmfInsert repeatCount attrByte stop).navigationCacheValid =
        screen.navigationCacheValid := by
  obtain ⟨same, valid⟩ :=
    ScreenBuffer.repeatData_sameIndex attrByte (screen.rmfRepeat repeatCount) screen
  have moved : screen.SameIndex (screen.rmfInsert repeatCount attrByte stop) :=
    same.trans ⟨rfl, rfl, rfl, rfl, rfl⟩
  exact ⟨.keep moved fun kept => valid.symm.trans kept, valid⟩

/-- RMF raises, finds no field, or replaces the one it finds. -/
theorem handleRmf_cases (repeatCount attrByte : UInt8) (tracked : TrackedScreen) :
    (tracked.screen.rmfStop repeatCount attrByte = none ∧
        tracked.handleRmf repeatCount attrByte = tracked) ∨
      ∃ stop, tracked.screen.rmfStop repeatCount attrByte = some stop ∧
        (((tracked.rmfInserted repeatCount attrByte stop).getFieldAtPosition
              stop.1 stop.2 = none ∧
            tracked.handleRmf repeatCount attrByte =
              tracked.rmfInserted repeatCount attrByte stop) ∨
          ∃ reference,
            (tracked.rmfInserted repeatCount attrByte stop).getFieldAtPosition
              stop.1 stop.2 = some reference ∧
            tracked.handleRmf repeatCount attrByte =
              (tracked.rmfInserted repeatCount attrByte stop).markModified reference) := by
  unfold handleRmf
  cases stopped : tracked.screen.rmfStop repeatCount attrByte with
  | none => exact .inl ⟨rfl, rfl⟩
  | some stop =>
      refine .inr ⟨stop, rfl, ?_⟩
      dsimp only
      cases found : (tracked.rmfInserted repeatCount attrByte stop).getFieldAtPosition
          stop.1 stop.2 with
      | none => exact .inl ⟨rfl, rfl⟩
      | some reference => exact .inr ⟨reference, rfl, rfl⟩

theorem Coherent.markModified (coherent : tracked.Coherent) (reference : Nat) :
    (tracked.markModified reference).Coherent := by
  unfold TrackedScreen.markModified FieldObjects.replaceObject
  dsimp only
  cases tracked.objects.fields.idxOf? reference with
  | none => exact { coherent with fields := rfl }
  | some index =>
      exact coherent.replaceAt ⟨coherent.map_replaceAt index _, rfl, rfl, rfl, rfl⟩

theorem markModified_agrees_iff (coherent : tracked.Coherent) (covered : tracked.Covered)
    (agrees : tracked.AgreesWithScan) {row col reference : Nat}
    (found : tracked.getFieldAtPosition row col = some reference) :
    (tracked.markModified reference).AgreesWithScan ↔
      tracked.screen.navigationCacheValid = false := by
  cases valid : tracked.screen.navigationCacheValid with
  | false => exact iff_of_true (agreesWithScan_of_invalid valid) rfl
  | true =>
      refine iff_of_false ?_ nofun
      exact not_agreesWithScan_replaceObject coherent covered agrees valid found
        (Field.span_replaceModified _ _) rfl rfl valid

theorem handleRmf_coherent (coherent : tracked.Coherent) :
    (tracked.handleRmf repeatCount attrByte).Coherent := by
  rcases tracked.handleRmf_cases repeatCount attrByte with
    ⟨_, same⟩ | ⟨stop, _, ⟨_, same⟩ | ⟨reference, _, same⟩⟩
  · rw [same]
    exact coherent
  all_goals
    have inserted : (tracked.rmfInserted repeatCount attrByte stop).Coherent :=
      coherent.follow (rmfInsert_describes repeatCount attrByte stop tracked.screen).1
    rw [same]
  · exact inserted
  · exact inserted.markModified reference

theorem leavesCaches_repeatModify_iff (coherent : tracked.Coherent)
    (agrees : tracked.AgreesWithScan) {stop : Nat × Nat}
    (stopped : tracked.screen.rmfStop repeatCount attrByte = some stop) :
    LeavesCaches (.repeatModify repeatCount attrByte) tracked ↔
      (tracked.screen.navigationCacheValid = true →
        (tracked.rmfInserted repeatCount attrByte stop).getFieldAtPosition
          stop.1 stop.2 = none) := by
  obtain ⟨describes, _⟩ := rmfInsert_describes repeatCount attrByte stop tracked.screen
  have inserted : (tracked.rmfInserted repeatCount attrByte stop).AgreesWithScan :=
    agrees.follow describes
  obtain ⟨same, _⟩ : tracked.screen.SameIndex
      (tracked.screen.rmfInsert repeatCount attrByte stop) ∧ True := by
    cases describes with
    | keep same valid => exact ⟨same, trivial⟩
  have missed : (tracked.objects.scan tracked.screen.cols
        (stop.1 * tracked.screen.cols + stop.2) = none) ↔
      ∀ field ∈ tracked.screen.fields,
        ScreenBuffer.containsIndex tracked.screen.cols
          (stop.1 * tracked.screen.cols + stop.2) field = false := by
    unfold FieldObjects.scan
    rw [List.find?_eq_none, coherent.fields, List.forall_mem_map]
    simp only [Bool.not_eq_true]
    rfl
  have looked : (stop.1 < tracked.screen.rows ∧ stop.2 < tracked.screen.cols) →
      (tracked.rmfInserted repeatCount attrByte stop).getFieldAtPosition stop.1 stop.2 =
        tracked.objects.scan tracked.screen.cols
          (stop.1 * tracked.screen.cols + stop.2) := by
    intro inside
    have here := inserted.lookup stop.1 stop.2 (lt_of_lt_of_eq inside.1 same.rows.symm)
      (lt_of_lt_of_eq inside.2 same.cols.symm)
    have cols : (tracked.rmfInserted repeatCount attrByte stop).screen.cols =
      tracked.screen.cols := same.cols
    rw [here, cols]
    rfl
  constructor
  · intro leaves valid
    by_contra found
    obtain ⟨reference, found⟩ := Option.ne_none_iff_exists'.mp found
    have inside : stop.1 < tracked.screen.rows ∧ stop.2 < tracked.screen.cols := by
      have here := getFieldAtPosition_inside found
      exact ⟨lt_of_lt_of_eq here.1 same.rows, lt_of_lt_of_eq here.2 same.cols⟩
    rw [looked inside, missed.mpr (leaves valid stop stopped inside.1 inside.2)] at found
    cases found
  · intro unfound valid other again rowInside colInside
    cases stopped.symm.trans again
    have inside := And.intro rowInside colInside
    exact missed.mp ((looked inside).symm.trans (unfound valid))

theorem handleRmf_agrees_iff (coherent : tracked.Coherent) (covered : tracked.Covered)
    (agrees : tracked.AgreesWithScan) :
    (tracked.handleRmf repeatCount attrByte).AgreesWithScan ↔
      LeavesCaches (.repeatModify repeatCount attrByte) tracked := by
  rcases tracked.handleRmf_cases repeatCount attrByte with
    ⟨raised, same⟩ | ⟨stop, stopped, outcome⟩
  · rw [same]
    refine iff_of_true agrees fun _ stop stopped => ?_
    rw [raised] at stopped
    cases stopped
  obtain ⟨describes, kept⟩ := rmfInsert_describes repeatCount attrByte stop tracked.screen
  rw [leavesCaches_repeatModify_iff coherent agrees stopped]
  rcases outcome with ⟨missed, same⟩ | ⟨reference, found, same⟩
  · rw [same]
    exact iff_of_true (agrees.follow describes) fun _ => missed
  · have marked : ((tracked.rmfInserted repeatCount attrByte stop).markModified
        reference).AgreesWithScan ↔ _ :=
      markModified_agrees_iff (coherent.follow describes) (covered.follow describes)
        (agrees.follow describes) found
    have valid : (tracked.rmfInserted repeatCount attrByte stop).screen.navigationCacheValid =
      tracked.screen.navigationCacheValid := kept
    rw [same, marked, found]
    exact ⟨fun invalid before => absurd (before.symm.trans (valid.symm.trans invalid)) nofun,
      fun unused => Bool.eq_false_iff.mpr fun before => nomatch unused (valid.symm.trans before)⟩

theorem handleRmf_covered (coherent : tracked.Coherent) (covered : tracked.Covered)
    (agrees : tracked.AgreesWithScan)
    (leaves : LeavesCaches (.repeatModify repeatCount attrByte) tracked) :
    (tracked.handleRmf repeatCount attrByte).Covered := by
  rcases tracked.handleRmf_cases repeatCount attrByte with
    ⟨_, same⟩ | ⟨stop, stopped, outcome⟩
  · rw [same]
    exact covered
  obtain ⟨describes, kept⟩ := rmfInsert_describes repeatCount attrByte stop tracked.screen
  rcases outcome with ⟨_, same⟩ | ⟨reference, found, same⟩
  · rw [same]
    exact covered.follow describes
  · rw [leavesCaches_repeatModify_iff coherent agrees stopped] at leaves
    intro valid
    rw [same] at valid
    have before : tracked.screen.navigationCacheValid = true := kept.symm.trans valid
    rw [leaves before] at found
    cases found

end Rmf

section Runs

variable {tracked : TrackedScreen}

/-- A call is the light pen, RMF, or an operation with a known effect on the fields,
which leaves the caches alone or drops them. -/
theorem call_cases (call : Call) (tracked : TrackedScreen) :
    (∃ row col, call = .mutate (.operation (.selectLightPen row col))) ∨
      (∃ repeatCount attrByte, call = .repeatModify repeatCount attrByte) ∨
      (LeavesCaches call tracked ∧ ∃ after effect,
        tracked.screen.Describes after effect ∧
          tracked.call call = tracked.follow after effect) := by
  have kept : ∀ {after : ScreenBuffer}, tracked.screen.SameIndex after →
      after.navigationCacheValid = tracked.screen.navigationCacheValid →
        tracked.screen.Describes after .keep :=
    fun same valid => .keep same fun after => valid.symm.trans after
  cases call with
  | mutate mutation =>
      by_cases pen : ∃ row col, mutation = .operation (.selectLightPen row col)
      · obtain ⟨row, col, rfl⟩ := pen
        exact .inl ⟨row, col, rfl⟩
      · push Not at pen
        refine .inr (.inr ⟨?_, _, _, ScreenBuffer.mutate_describes mutation tracked.screen pen, ?_⟩)
        · unfold LeavesCaches
          split
          · rename_i row col same
            cases same
            exact absurd rfl (pen row col)
          · rename_i same
            cases same
          · trivial
        · unfold TrackedScreen.call
          split
          · rename_i row col same
            cases same
            exact absurd rfl (pen row col)
          · rename_i same
            cases same
            rfl
          all_goals
            rename_i same
            cases same
  | setAsciiMode asciiMode =>
      exact .inr (.inr ⟨trivial, tracked.screen.setAsciiMode asciiMode, _,
        kept ⟨rfl, rfl, rfl, rfl, rfl⟩ rfl, rfl⟩)
  | setKeyboardLock locked =>
      exact .inr (.inr ⟨trivial, tracked.screen.setKeyboardLock locked, _,
        kept ⟨rfl, rfl, rfl, rfl, rfl⟩ rfl, rfl⟩)
  | startField attr =>
      exact .inr (.inr ⟨trivial, _, _,
        ScreenBuffer.startField_describes attr tracked.screen, rfl⟩)
  | modifyField target pairs =>
      obtain ⟨same, valid⟩ := ScreenBuffer.modifyField_sameIndex target pairs tracked.screen
      exact .inr (.inr ⟨trivial, _, _, kept same valid, rfl⟩)
  | repeatModify repeatCount attrByte => exact .inr (.inl ⟨repeatCount, attrByte, rfl⟩)

/-- Every call leaves the references with the fields of the screen. -/
theorem Coherent.call (coherent : tracked.Coherent) (call : Call) :
    (tracked.call call).Coherent := by
  rcases call_cases call tracked with
    ⟨row, col, rfl⟩ | ⟨repeatCount, attrByte, rfl⟩ | ⟨_, after, effect, describes, same⟩
  · exact selectLightPen_coherent
  · exact handleRmf_coherent coherent
  · rw [same]
    exact coherent.follow describes

theorem Covered.call (coherent : tracked.Coherent) (covered : tracked.Covered)
    (agrees : tracked.AgreesWithScan) {call : Call} (leaves : LeavesCaches call tracked) :
    (tracked.call call).Covered := by
  rcases call_cases call tracked with
    ⟨row, col, rfl⟩ | ⟨repeatCount, attrByte, rfl⟩ | ⟨_, after, effect, describes, same⟩
  · show (tracked.selectLightPen row col).Covered
    rw [selectLightPen_of_leaves leaves]
    exact tracked.detectFields_agrees.2.1
  · exact handleRmf_covered coherent covered agrees leaves
  · rw [same]
    exact covered.follow describes

theorem call_agrees_iff (coherent : tracked.Coherent) (covered : tracked.Covered)
    (agrees : tracked.AgreesWithScan) (call : Call) :
    (tracked.call call).AgreesWithScan ↔ LeavesCaches call tracked := by
  rcases call_cases call tracked with
    ⟨row, col, rfl⟩ | ⟨repeatCount, attrByte, rfl⟩ | ⟨leaves, after, effect, describes, same⟩
  · exact selectLightPen_agrees_iff
  · exact handleRmf_agrees_iff coherent covered agrees
  · rw [same]
    exact iff_of_true (agrees.follow describes) leaves

end Runs

variable (rows cols : Nat) (rows_pos : 0 < rows) (cols_pos : 0 < cols)
  (initValue : UInt8) (codepage : String)

theorem init_coherent : (init rows cols rows_pos cols_pos initValue codepage).Coherent where
  fields := rfl
  cached := fun _ => rfl
  inputs := rfl
  fields_held := nofun
  cached_held := nofun
  inputs_held := nofun

/-- The references lead to the fields of the screen in every run. -/
theorem run_coherent (calls : List Call) :
    (run call calls (init rows cols rows_pos cols_pos initValue codepage)).Coherent :=
  @run_invariant _ _ call Coherent (fun call _ coherent => coherent.call call) calls _
    (init_coherent rows cols rows_pos cols_pos initValue codepage)

/-- From a new screen the lookups give what the searches give after every call of a
run exactly when no call replaces a field under a valid cache. -/
theorem lookups_agree_iff (calls : List Call) :
    Always call AgreesWithScan calls
        (init rows cols rows_pos cols_pos initValue codepage) ↔
      Along call LeavesCaches calls
        (init rows cols rows_pos cols_pos initValue codepage) := by
  have start : (init rows cols rows_pos cols_pos initValue codepage).AgreesWithScan :=
    agreesWithScan_of_invalid rfl
  exact @always_iff_along_while _ _ call
    (fun tracked => tracked.Coherent ∧ tracked.Covered ∧ tracked.AgreesWithScan)
    AgreesWithScan LeavesCaches
    (fun call _ ⟨coherent, covered, agrees⟩ leaves =>
      ⟨coherent.call call, covered.call coherent agrees leaves,
        (call_agrees_iff coherent covered agrees call).mpr leaves⟩)
    (fun call _ ⟨coherent, covered, agrees⟩ _ =>
      call_agrees_iff coherent covered agrees call)
    calls _ ⟨init_coherent rows cols rows_pos cols_pos initValue codepage, nofun, start⟩ start

/-- A write takes the caches out of use, so that RMF in the field does no harm. -/
theorem lookups_agree_small :
    Always call AgreesWithScan
      [.startField 0x00, .mutate (.operation (.writeChar 0xC1 (some (0, 1)) false false false)),
        .repeatModify 1 0xC2]
      (init 2 3 (by decide) (by decide) 0x40 "cp037") :=
  (lookups_agree_iff 2 3 (by decide) (by decide) 0x40 "cp037" _).mpr
    ⟨trivial, trivial, fun valid => absurd valid (by decide +kernel), trivial⟩

/-- The lookup of a field that the light pen selected gives the field before. -/
theorem not_lookups_agree :
    ¬ ∀ (rows cols : Nat) (rows_pos : 0 < rows) (cols_pos : 0 < cols)
      (initValue : UInt8) (codepage : String) (calls : List Call),
      Always call AgreesWithScan calls
        (init rows cols rows_pos cols_pos initValue codepage) := by
  intro claimed
  have selected := (claimed 2 3 (by decide) (by decide) 0x40 "cp037"
    [.startField 0x04, .mutate (.operation (.selectLightPen 0 0))]).2.2
  exact absurd (selected.lookup 0 0 (by decide) (by decide)) (by decide +kernel)

end TrackedScreen

end Pure3270

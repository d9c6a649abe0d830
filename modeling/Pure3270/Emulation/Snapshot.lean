import Mathlib.Tactic.Linarith
import Pure3270.Emulation.FieldSpans
import Pure3270.Emulation.ScreenText
import Pure3270.Foundations.Base64

/-!
# Snapshots of a screen

A snapshot holds what a screen shows as the values of a JSON document: the
arrays in base 64, the extended attributes under the text of their positions,
and the fields with most of their parameters.  A screen made from it again has
field starts only where it has extended attributes.
-/

namespace Pure3270

open Foundations

/-- The dictionary of a field. -/
structure FieldDict where
  start : Nat × Nat
  finish : Nat × Nat
  isProtected : Bool
  numeric : Bool
  modified : Bool
  selected : Bool
  intensity : Nat
  color : Nat
  background : Nat
  validation : Nat
  outlining : Nat
  characterSet : Nat
  sfeHighlight : Nat
  content : List Char

namespace FieldDict

def ofField (field : Field) : FieldDict where
  start := field.start
  finish := field.finish
  isProtected := field.isProtected
  numeric := field.numeric
  modified := field.modified
  selected := field.selected
  intensity := field.intensity
  color := field.color
  background := field.background
  validation := field.validation
  outlining := field.outlining
  characterSet := field.characterSet
  sfeHighlight := field.sfeHighlight
  content := Base64.encode field.content

/-- The field of a dictionary.  What the dictionary does not hold gets the default
of the constructor. -/
def toField (dict : FieldDict) : Option Field := do
  let content ← Base64.decode dict.content
  some (Field.init {
    start := dict.start
    finish := dict.finish
    isProtected := dict.isProtected
    numeric := dict.numeric
    modified := dict.modified
    selected := dict.selected
    intensity := dict.intensity
    color := dict.color
    background := dict.background
    validation := dict.validation
    outlining := dict.outlining
    characterSet := dict.characterSet
    sfeHighlight := dict.sfeHighlight
    content })

end FieldDict

/-- `ScreenSnapshot`, without the version and the time, which nothing reads.  The
JSON text of these values reads back as the values. -/
structure Snapshot where
  asciiMode : Bool
  rows : Nat
  cols : Nat
  buffer : List Char
  attributes : List Char
  cursorRow : Nat
  cursorCol : Nat
  extendedAttributes : List (List Char × (AttributeType → Option Nat))
  fields : List FieldDict

namespace Snapshot

/-- `f"({row},{col})"`. -/
def positionText (position : Nat × Nat) : List Char :=
  '(' :: Nat.toDigits 10 position.1 ++ ',' :: Nat.toDigits 10 position.2 ++ [')']

def isParenthesis (ch : Char) : Bool := ch = '(' || ch = ')'

/-- `int` on decimal digits. -/
def readInteger (text : List Char) : Option Nat :=
  if text ≠ [] ∧ text.all Char.isDigit then some (Nat.ofDigitChars 10 text 0) else none

/-- `map(int, pos_str.strip("()").split(","))`, unpacked into two values. -/
def readPosition (text : List Char) : Option (Nat × Nat) :=
  match ((text.dropWhile isParenthesis).rdropWhile isParenthesis).splitOn ',' with
  | [row, col] => do
      let row ← readInteger row
      let col ← readInteger col
      some (row, col)
  | _ => none

theorem readInteger_toDigits (number : Nat) :
    readInteger (Nat.toDigits 10 number) = some number := by
  have digits : (Nat.toDigits 10 number).all Char.isDigit = true :=
    List.all_eq_true.mpr fun _ member =>
      Nat.isDigit_of_mem_toDigits (by decide) (by decide) member
  unfold readInteger
  rw [if_pos ⟨Nat.toDigits_ne_nil, digits⟩, Nat.ofDigitChars_ten_toDigits]

private theorem digit_plain {number : Nat} {ch : Char} (member : ch ∈ Nat.toDigits 10 number) :
    isParenthesis ch = false ∧ ch ≠ ',' := by
  have digit : ch.isDigit = true := Nat.isDigit_of_mem_toDigits (by decide) (by decide) member
  constructor
  · unfold isParenthesis
    rw [Bool.or_eq_false_iff, decide_eq_false_iff_not, decide_eq_false_iff_not]
    exact ⟨fun same => by subst same; revert digit; decide,
      fun same => by subst same; revert digit; decide⟩
  · rintro rfl
    revert digit
    decide

theorem readPosition_positionText (position : Nat × Nat) :
    readPosition (positionText position) = some position := by
  have row : Nat.toDigits 10 position.1 ≠ [] := Nat.toDigits_ne_nil
  have col : Nat.toDigits 10 position.2 ≠ [] := Nat.toDigits_ne_nil
  have front : (positionText position).dropWhile isParenthesis =
      Nat.toDigits 10 position.1 ++ ',' :: Nat.toDigits 10 position.2 ++ [')'] := by
    obtain ⟨first, rest, split⟩ := List.exists_cons_of_ne_nil row
    have plain := (@digit_plain position.1 first (by rw [split]; exact List.mem_cons_self)).1
    unfold positionText
    simp only [split, List.cons_append]
    rw [List.dropWhile_cons_of_pos (by decide),
      List.dropWhile_cons_of_neg (by rw [plain]; decide)]
  have back : (Nat.toDigits 10 position.1 ++ ',' :: Nat.toDigits 10 position.2 ++
      [')']).rdropWhile isParenthesis =
      Nat.toDigits 10 position.1 ++ ',' :: Nat.toDigits 10 position.2 := by
    obtain ⟨rest, last, split⟩ :=
      (List.eq_nil_or_concat' (Nat.toDigits 10 position.2)).resolve_left col
    have plain := (@digit_plain position.2 last (by rw [split]; simp)).1
    rw [List.rdropWhile_concat_pos _ _ _ (by decide), split, ← List.cons_append,
      ← List.append_assoc, List.rdropWhile_concat_neg _ _ _ (by rw [plain]; decide)]
  have noComma : ∀ number, ',' ∉ Nat.toDigits 10 number :=
    fun _ member => (digit_plain member).2 rfl
  unfold readPosition
  rw [front, back, List.splitOn_append_cons_self, List.splitOn_eq_singleton (noComma _),
    List.splitOn_eq_singleton (noComma _)]
  show (do
    let row ← readInteger (Nat.toDigits 10 position.1)
    let col ← readInteger (Nat.toDigits 10 position.2)
    some (row, col)) = some position
  rw [readInteger_toDigits, readInteger_toDigits]
  rfl

/-- `ScreenSnapshot.__init__`.  The keys of the attribute dictionary are given in
their order; a set that holds a raw value has no dictionary and raises. -/
def init (keys : List (Nat × Nat)) (screen : ScreenBuffer) : Option Snapshot := do
  let extendedAttributes ← keys.mapM fun key => do
    let set ← screen.extendedAttributes key
    let dict ← set.toDict
    some (positionText key, dict)
  some {
    asciiMode := screen.asciiMode
    rows := screen.rows
    cols := screen.cols
    buffer := Base64.encode screen.buffer
    attributes := Base64.encode screen.attributes
    cursorRow := screen.cursorRow
    cursorCol := screen.cursorCol
    extendedAttributes
    fields := screen.fields.map FieldDict.ofField }

/-- The inner loop over the attributes of a position. -/
def restoreSet (position : Nat × Nat) (dict : AttributeType → Option Nat) :
    List AttributeType → ScreenBuffer → ScreenBuffer
  | [], screen => screen
  | attrType :: rest, screen =>
      match dict attrType with
      | none => restoreSet position dict rest screen
      | some value =>
          restoreSet position dict rest
            (screen.setExtendedAttribute position.1 position.2 attrType value)

/-- The loop over the extended attributes. -/
def restoreAttributes :
    List (List Char × (AttributeType → Option Nat)) → ScreenBuffer → Option ScreenBuffer
  | [], screen => some screen
  | (text, dict) :: rest, screen => do
      let position ← readPosition text
      restoreAttributes rest (restoreSet position dict AttributeType.all screen)

/-- `to_screen_buffer`.  The constructor refuses a screen without cells. -/
def toScreenBuffer (snapshot : Snapshot) : Option ScreenBuffer :=
  if sized : 0 < snapshot.rows ∧ 0 < snapshot.cols then do
    let blank := (ScreenBuffer.init snapshot.rows snapshot.cols sized.1 sized.2 0x40
      "cp037").setAsciiMode snapshot.asciiMode
    let buffer ← Base64.decode snapshot.buffer
    let attributes ← Base64.decode snapshot.attributes
    let screen ← restoreAttributes snapshot.extendedAttributes { blank with
      buffer
      attributes
      cursorRow := snapshot.cursorRow
      cursorCol := snapshot.cursorCol }
    let fields ← snapshot.fields.mapM FieldDict.toField
    some { screen with fields }
  else none

/-- A screen through a snapshot and back. -/
def roundTrip (keys : List (Nat × Nat)) (screen : ScreenBuffer) : Option ScreenBuffer := do
  let snapshot ← init keys screen
  snapshot.toScreenBuffer

/-- What the users of a screen see of it, now and after the fields are detected. -/
structure Observation where
  buffer : List UInt8
  attributes : List UInt8
  cursor : Nat × Nat
  asciiMode : Bool
  asciiBuffer : List Char
  text : List Char
  fields : List Field
  redetected : List Field
  deriving DecidableEq

def observe (pages : Ebcdic.Codepages) (screen : ScreenBuffer) : Observation where
  buffer := screen.buffer
  attributes := screen.attributes
  cursor := screen.getPosition
  asciiMode := screen.asciiMode
  asciiBuffer := screen.asciiBuffer pages
  text := screen.toText pages
  fields := screen.fields
  redetected := screen.detectFields.fields

/-- The screen made from the snapshot is there and looks like the original. -/
def RoundTrips (pages : Ebcdic.Codepages) (keys : List (Nat × Nat))
    (screen : ScreenBuffer) : Prop :=
  (roundTrip keys screen).map (observe pages) = some (observe pages screen)

/-- The keys of the attribute dictionary, in any order. -/
def Enumerates (keys : List (Nat × Nat)) (screen : ScreenBuffer) : Prop :=
  ∀ key, key ∈ keys ↔ (screen.extendedAttributes key).isSome

end Snapshot

namespace ScreenBuffer

/-- A screen without its attribute dictionary, its field starts and its fields. -/
def picture (screen : ScreenBuffer) : ScreenBuffer :=
  { screen with
    extendedAttributes := fun _ => none
    fieldStarts := SortedSet.empty
    fields := []
    fieldPositionCache := fun _ => none
    inputFieldsCache := []
    navigationCacheValid := false }

def HasCell (position : Nat × Nat) (screen : ScreenBuffer) : Prop :=
  position.1 < screen.rows ∧ position.2 < screen.cols

/-- A position has an attribute set with an attribute in it. -/
def Attributed (position : Nat × Nat) (screen : ScreenBuffer) : Prop :=
  ∃ set, screen.extendedAttributes position = some set ∧ set.isEmpty = false

/-- The positions that got an attribute are field starts. -/
structure Marks (added : Nat × Nat → Prop) (before after : ScreenBuffer) : Prop where
  picture : after.picture = before.picture
  attributed : ∀ position,
    after.Attributed position ↔ before.Attributed position ∨ added position
  starts : ∀ pos, pos ∈ after.fieldStarts ↔ pos ∈ before.fieldStarts ∨
    ∃ position, added position ∧ position.1 * before.cols + position.2 = pos

theorem cols_of_picture {before after : ScreenBuffer} (same : after.picture = before.picture) :
    after.cols = before.cols := by
  have cols := congrArg ScreenBuffer.cols same
  exact cols

theorem hasCell_of_picture {before after : ScreenBuffer}
    (same : after.picture = before.picture) (position : Nat × Nat) :
    after.HasCell position ↔ before.HasCell position := by
  have rows := congrArg ScreenBuffer.rows same
  have cols := congrArg ScreenBuffer.cols same
  exact and_congr (Eq.to_iff (congrArg _ rows)) (Eq.to_iff (congrArg _ cols))

theorem Marks.none {added : Nat × Nat → Prop} (nothing : ∀ position, ¬ added position)
    (screen : ScreenBuffer) : Marks added screen screen where
  picture := rfl
  attributed position := by simp [nothing]
  starts pos := by simp [nothing]

theorem Marks.congr {added other : Nat × Nat → Prop} {before after : ScreenBuffer}
    (marks : Marks added before after)
    (same : ∀ position, other position ↔ added position) : Marks other before after where
  picture := marks.picture
  attributed position := by rw [marks.attributed, same]
  starts pos := by rw [marks.starts]; simp only [same]

theorem Marks.trans {first second added : Nat × Nat → Prop} {before middle after : ScreenBuffer}
    (one : Marks first before middle) (two : Marks second middle after)
    (both : ∀ position, added position ↔ first position ∨ second position) :
    Marks added before after where
  picture := two.picture.trans one.picture
  attributed position := by
    rw [two.attributed, one.attributed, both, or_assoc]
  starts pos := by
    rw [two.starts, one.starts, cols_of_picture one.picture, or_assoc]
    simp only [both, or_and_right, exists_or]

theorem ExtendedAttributeSet.isEmpty_setAttribute (attrType : AttributeType) (value : Nat)
    (set : ExtendedAttributeSet) : (set.setAttribute attrType value).isEmpty = false := by
  unfold ExtendedAttributeSet.isEmpty
  rw [List.all_eq_false]
  refine ⟨attrType, AttributeType.mem_all attrType, ?_⟩
  unfold ExtendedAttributeSet.setAttribute
  simp

theorem setExtendedAttribute_marks (row col : Nat) (attrType : AttributeType) (value : Nat)
    (screen : ScreenBuffer) :
    Marks (fun position => position = (row, col) ∧ screen.HasCell position) screen
      (screen.setExtendedAttribute row col attrType value) := by
  unfold setExtendedAttribute
  split
  · rename_i inside
    have marks : ∀ after : ScreenBuffer,
        after.picture = screen.picture →
        after.extendedAttributes = (fun other =>
          if other = (row, col) then
            some (((screen.extendedAttributes (row, col)).getD
              ExtendedAttributeSet.empty).setAttribute attrType value)
          else screen.extendedAttributes other) →
        after.fieldStarts = screen.fieldStarts.insert (row * screen.cols + col) →
        Marks (fun position => position = (row, col) ∧ screen.HasCell position) screen
          after := by
      intro after picture sets starts
      refine ⟨picture, fun position => ?_, fun pos => ?_⟩
      · unfold Attributed
        rw [sets]
        by_cases here : position = (row, col)
        · subst here
          simp only [if_true, Option.some.injEq, exists_eq_left',
            ExtendedAttributeSet.isEmpty_setAttribute, true_and, true_iff]
          exact .inr inside
        · simp only [here, if_false, false_and, or_false]
      · rw [starts, SortedSet.mem_insert, or_comm]
        refine or_congr Iff.rfl ⟨fun same => ⟨(row, col), ⟨rfl, inside⟩, same.symm⟩, ?_⟩
        rintro ⟨_, ⟨rfl, _⟩, same⟩
        exact same.symm
    dsimp only
    split
    · exact marks _ rfl rfl rfl
    · exact marks _ rfl rfl rfl
  · rename_i outside
    refine Marks.none ?_ screen
    rintro _ ⟨rfl, inside⟩
    exact outside inside

end ScreenBuffer

namespace Snapshot

theorem restoreSet_marks (position : Nat × Nat) (dict : AttributeType → Option Nat)
    (types : List AttributeType) (screen : ScreenBuffer) :
    ScreenBuffer.Marks
      (fun other => other = position ∧ screen.HasCell other ∧
        ∃ attrType ∈ types, (dict attrType).isSome)
      screen (restoreSet position dict types screen) := by
  induction types generalizing screen with
  | nil => exact .none (by simp) screen
  | cons attrType types ih =>
      cases found : dict attrType with
      | none =>
          rw [restoreSet, found]
          refine (ih screen).congr fun other => ?_
          simp [found]
      | some value =>
          rw [restoreSet, found]
          have set := screen.setExtendedAttribute_marks position.1 position.2 attrType value
          refine set.trans (ih _) fun other => ?_
          simp only [ScreenBuffer.hasCell_of_picture set.picture, List.mem_cons,
            exists_eq_or_imp, found, Option.isSome_some, true_or, and_true]
          tauto

theorem restoreAttributes_marks (entries : List ((Nat × Nat) × (AttributeType → Option Nat)))
    (screen : ScreenBuffer) :
    ∃ after, restoreAttributes (entries.map fun entry => (positionText entry.1, entry.2))
        screen = some after ∧
      ScreenBuffer.Marks
        (fun position => screen.HasCell position ∧
          ∃ entry ∈ entries, entry.1 = position ∧ ∃ attrType, (entry.2 attrType).isSome)
        screen after := by
  induction entries generalizing screen with
  | nil => exact ⟨screen, rfl, .none (by simp) screen⟩
  | cons entry entries ih =>
      have set := restoreSet_marks entry.1 entry.2 AttributeType.all screen
      obtain ⟨after, rest, marks⟩ :=
        ih (restoreSet entry.1 entry.2 AttributeType.all screen)
      refine ⟨after, ?_, set.trans marks fun position => ?_⟩
      · rw [List.map_cons, restoreAttributes, readPosition_positionText]
        exact rest
      · have every : (∃ attrType ∈ AttributeType.all, (entry.2 attrType).isSome = true) ↔
            ∃ attrType, (entry.2 attrType).isSome = true :=
          ⟨fun ⟨attrType, _, held⟩ => ⟨attrType, held⟩,
            fun ⟨attrType, held⟩ => ⟨attrType, AttributeType.mem_all attrType, held⟩⟩
        simp only [ScreenBuffer.hasCell_of_picture set.picture, List.mem_cons,
          exists_eq_or_imp, every, eq_comm (a := position)]
        tauto

/-- What the dictionary of a field keeps of it. -/
def kept (field : Field) : Field :=
  Field.init { field.toFieldParams with
    bypass := false
    hidden := false
    lightPen := 0
    codepage := "cp037" }

theorem toField_ofField (field : Field) : (FieldDict.ofField field).toField = some (kept field) := by
  unfold FieldDict.toField FieldDict.ofField
  dsimp only
  rw [Base64.decode_encode]
  rfl

theorem kept_eq_iff {field : Field} :
    kept field = field ↔ field.bypass = false ∧ field.hidden = false ∧ field.lightPen = 0 ∧
      field.codepage = "cp037" := by
  have params : (kept field).toFieldParams = { field.toFieldParams with
      bypass := false
      hidden := false
      lightPen := 0
      codepage := "cp037" } := Field.init_start field.ordered
  constructor
  · intro same
    rw [same] at params
    exact ⟨congrArg FieldParams.bypass params, congrArg FieldParams.hidden params,
      congrArg FieldParams.lightPen params, congrArg FieldParams.codepage params⟩
  · rintro ⟨bypass, hidden, lightPen, codepage⟩
    have plain : ∀ params : FieldParams, params.bypass = false → params.hidden = false →
        params.lightPen = 0 → params.codepage = "cp037" →
        { params with bypass := false, hidden := false, lightPen := 0, codepage := "cp037" } =
          params := by
      rintro ⟨⟩ rfl rfl rfl rfl
      rfl
    have same := params.trans (plain _ bypass hidden lightPen codepage)
    generalize kept field = other at same
    cases other
    cases field
    cases same
    rfl

/-- The screen before its attributes and fields are restored. -/
def blank (screen : ScreenBuffer) : ScreenBuffer :=
  { ScreenBuffer.init screen.rows screen.cols screen.rows_pos screen.cols_pos 0x40 "cp037" with
    asciiMode := screen.asciiMode
    buffer := screen.buffer
    attributes := screen.attributes
    cursorRow := screen.cursorRow
    cursorCol := screen.cursorCol }

structure Restored (screen restored : ScreenBuffer) : Prop where
  picture : restored.picture = (blank screen).picture
  fields : restored.fields = screen.fields.map kept
  attributed : ∀ position,
    restored.Attributed position ↔ screen.HasCell position ∧ screen.Attributed position
  starts : ∀ pos, pos ∈ restored.fieldStarts ↔
    ∃ position, (screen.HasCell position ∧ screen.Attributed position) ∧
      position.1 * screen.cols + position.2 = pos

/-- The dictionary of an attribute set whose values are all objects. -/
def dictOf (key : Nat × Nat) (screen : ScreenBuffer) (attrType : AttributeType) : Option Nat :=
  (screen.extendedAttributes key).bind (·.get attrType)

theorem attributed_iff {screen : ScreenBuffer} {key : Nat × Nat} :
    screen.Attributed key ↔ ∃ attrType, (dictOf key screen attrType).isSome := by
  unfold ScreenBuffer.Attributed dictOf
  cases screen.extendedAttributes key with
  | none => simp
  | some set =>
      simp only [Option.some.injEq, exists_eq_left', Option.bind_some]
      unfold ExtendedAttributeSet.isEmpty ExtendedAttributeSet.get
      rw [List.all_eq_false]
      constructor
      · rintro ⟨attrType, _, held⟩
        refine ⟨attrType, ?_⟩
        cases found : set.attributes attrType with
        | none => exact absurd (by rw [found]; rfl) held
        | some stored => rfl
      · rintro ⟨attrType, held⟩
        refine ⟨attrType, AttributeType.mem_all attrType, ?_⟩
        cases found : set.attributes attrType with
        | none =>
            rw [found] at held
            cases held
        | some stored => exact Bool.false_ne_true

variable {keys : List (Nat × Nat)} {screen : ScreenBuffer}

theorem mapM_some {α β : Type} {read : α → Option β} {value : α → β} {items : List α}
    (each : ∀ item ∈ items, read item = some (value item)) :
    items.mapM read = some (items.map value) := by
  induction items with
  | nil => rfl
  | cons item items ih =>
      rw [List.mapM_cons, each item List.mem_cons_self,
        ih fun other member => each other (List.mem_cons_of_mem _ member)]
      rfl

theorem mapM_none {α β : Type} {read : α → Option β} {items : List α} {item : α}
    (member : item ∈ items) (fails : read item = none) : items.mapM read = none := by
  induction items with
  | nil => cases member
  | cons first items ih =>
      rw [List.mapM_cons]
      rcases List.mem_cons.mp member with rfl | later
      · rw [fails]
        rfl
      · rw [ih later]
        cases read first <;> rfl

theorem init_raw {key : Nat × Nat} {set : ExtendedAttributeSet} (member : key ∈ keys)
    (found : screen.extendedAttributes key = some set) (raw : set.allWrapped = false) :
    init keys screen = none := by
  unfold init
  rw [mapM_none member]
  · rfl
  · rw [found]
    show (do
      let dict ← set.toDict
      some (positionText key, dict)) = none
    rw [ExtendedAttributeSet.toDict_eq_none raw]
    rfl

theorem roundTrip_raw {key : Nat × Nat} {set : ExtendedAttributeSet} (member : key ∈ keys)
    (found : screen.extendedAttributes key = some set) (raw : set.allWrapped = false) :
    roundTrip keys screen = none := by
  unfold roundTrip
  rw [init_raw member found raw]
  rfl

theorem mapM_dicts (enumerates : Enumerates keys screen)
    (objects : ∀ key set, screen.extendedAttributes key = some set → set.allWrapped = true) :
    (keys.mapM fun key => do
      let set ← screen.extendedAttributes key
      let dict ← set.toDict
      some (positionText key, dict)) =
      some ((keys.map fun key => (key, dictOf key screen)).map fun entry =>
        (positionText entry.1, entry.2)) := by
  rw [List.map_map]
  refine mapM_some fun key member => ?_
  obtain ⟨set, found⟩ := Option.isSome_iff_exists.mp ((enumerates key).mp member)
  have dict : dictOf key screen = fun attrType => set.get attrType := by
    funext attrType
    unfold dictOf
    rw [found]
    rfl
  rw [found]
  show (do
    let dict ← set.toDict
    some (positionText key, dict)) = some (positionText key, dictOf key screen)
  rw [dict]
  unfold ExtendedAttributeSet.toDict
  rw [if_pos (objects key set found)]
  rfl

theorem roundTrip_restored (enumerates : Enumerates keys screen)
    (objects : ∀ key set, screen.extendedAttributes key = some set → set.allWrapped = true) :
    ∃ restored, roundTrip keys screen = some restored ∧ Restored screen restored := by
  have dicts := mapM_dicts enumerates objects
  obtain ⟨after, restores, marks⟩ :=
    restoreAttributes_marks (keys.map fun key => (key, dictOf key screen)) (blank screen)
  have added : ∀ position, ((blank screen).HasCell position ∧
      ∃ entry ∈ keys.map fun key => (key, dictOf key screen),
        entry.1 = position ∧ ∃ attrType, (entry.2 attrType).isSome) ↔
      screen.HasCell position ∧ screen.Attributed position := by
    intro position
    refine and_congr Iff.rfl ?_
    rw [attributed_iff]
    constructor
    · rintro ⟨_, member, rfl, held⟩
      obtain ⟨key, _, rfl⟩ := List.mem_map.mp member
      exact held
    · intro held
      have listed : position ∈ keys := by
        obtain ⟨set, found, _⟩ := attributed_iff.mpr held
        exact (enumerates position).mpr (by rw [found]; rfl)
      exact ⟨_, List.mem_map_of_mem listed, rfl, held⟩
  have bare : ∀ position, ¬ (blank screen).Attributed position := by
    rintro position ⟨set, found, _⟩
    cases found
  have fields : (screen.fields.map FieldDict.ofField).mapM FieldDict.toField =
      some (screen.fields.map kept) := by
    rw [List.mapM_map]
    exact mapM_some fun field _ => toField_ofField field
  refine ⟨{ after with fields := screen.fields.map kept }, ?_, ?_, rfl, fun position => ?_,
    fun pos => ?_⟩
  · unfold roundTrip init
    rw [dicts]
    show toScreenBuffer _ = _
    unfold toScreenBuffer
    rw [dif_pos ⟨screen.rows_pos, screen.cols_pos⟩]
    dsimp only
    rw [Base64.decode_encode, Base64.decode_encode, fields]
    show (do
      let restored ← restoreAttributes _ (blank screen)
      some { restored with fields := screen.fields.map kept }) = _
    rw [restores]
    rfl
  · have same := marks.picture
    exact same
  · have same := marks.attributed position
    rw [added] at same
    exact same.trans (or_iff_right (bare position))
  · have same := marks.starts pos
    simp only [added] at same
    exact same.trans (or_iff_right (SortedSet.not_mem_empty pos))

end Snapshot

end Pure3270

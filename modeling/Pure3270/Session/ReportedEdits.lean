import Pure3270.Emulation.ScreenOperations
import Pure3270.Session.EditedFields

/-!
# Reported edits

What the next Enter transmits are the contents of the fields that are marked as
modified.  An edit of an unprotected field is lost when it neither marks the
field nor renews its content, or when a later detection forgets the mark.
-/

namespace Pure3270

open Foundations

namespace ScreenBuffer

/-- The character cells of a field hold the bytes of a base buffer. -/
def CharsLike (cols : Nat) (base : List UInt8) (bytes : Nat → Option UInt8)
    (field : Field) : Prop :=
  ∀ pos, field.startIndex cols < pos → pos ≤ field.endIndex cols →
    bytes pos = base[pos]?

/-- An unprotected field whose characters differ from those of the base is
marked as modified and has the bytes of its cells. -/
def Reported (cols : Nat) (base buffer : List UInt8) (field : Field) : Prop :=
  field.isProtected = true ∨ CharsLike cols base (buffer[·]?) field ∨
    AlreadyShows cols buffer field

theorem mem_readModifiedFields (pages : Ebcdic.Codepages) {screen : ScreenBuffer}
    {field : Field} (member : field ∈ screen.fields)
    (shows : AlreadyShows screen.cols screen.buffer field) :
    (field.start, Ebcdic.decode (pages.table field.codepage)
      (contentOf screen.cols screen.buffer field)) ∈ screen.readModifiedFields pages := by
  rw [← shows.2]
  exact List.mem_map_of_mem (List.mem_filter.mpr ⟨member, shows.1⟩)

end ScreenBuffer

namespace AsyncSession

open ScreenBuffer

/-- Every unprotected field that differs from the base is reported. -/
def ReportsEdits (base : List UInt8) (session : AsyncSession) : Prop :=
  ∀ field ∈ session.screenBuffer.fields,
    Reported session.screenBuffer.cols base session.screenBuffer.buffer field

/-- A keystroke spares the edits of a field that it does not renew: the field is
protected, or nothing new is stored in its cells. -/
def SparesEdits (key : Keystroke) (session : AsyncSession) (field : Field) : Prop :=
  field.isProtected = true ∨ Untouched key session field

/-- A keystroke after which no edit is lost. -/
def LosesNoEdit (base : List UInt8) (key : Keystroke) (session : AsyncSession) :
    Prop :=
  let screen := session.screenBuffer
  match key with
  | .char ch =>
      let accepted := screen.Accepts screen.cursorRow screen.cursorCol
        session.circumventProtection
      let detects := screen.Redetects screen.cursorRow screen.cursorCol
      (¬ accepted → ∀ field ∈ screen.fields, SparesEdits (.char ch) session field) ∧
        -- detection takes the marks from the attribute bytes
        (accepted → detects → ∀ field ∈ screen.detectedFields,
          field.isProtected = true ∨ field.modified = true ∨
            CharsLike screen.cols base (screen.buffer[·]?) field ∧
              Untouched (.char ch) session field) ∧
        (accepted → ¬ detects →
          ∀ field ∈ screen.otherFields, SparesEdits (.char ch) session field)
  | .eraseInput =>
      ∀ field ∈ screen.fields, field.isProtected = true ∨
        CharsLike screen.cols base (screen.buffer[·]?) field ∨
        List.replicate field.content.length 0x40 =
          contentOf screen.cols screen.buffer field
  | key => ∀ field ∈ screen.fields, SparesEdits key session field

section Keystroke

variable {base : List UInt8} {session : AsyncSession} {key : Keystroke} {field : Field}

/-- A field in which nothing new is stored has the characters that it had. -/
theorem charsLike_press (valid : session.screenBuffer.Valid)
    (untouched : Untouched key session field)
    (like : CharsLike session.screenBuffer.cols base
      (session.screenBuffer.buffer[·]?) field) :
    CharsLike session.screenBuffer.cols base
      ((session.press key).screenBuffer.buffer[·]?) field := by
  intro pos behind before
  have inside : containsIndex session.screenBuffer.cols pos field = true := by
    simp only [containsIndex, Bool.and_eq_true, decide_eq_true_eq]
    omega
  have same : (session.press key).screenBuffer.buffer[pos]? =
      session.screenBuffer.buffer[pos]? :=
    (press_byteAfter valid key pos).trans (untouched pos inside)
  exact same.trans (like pos behind before)

theorem reported_press (valid : session.screenBuffer.Valid)
    (reported : Reported session.screenBuffer.cols base session.screenBuffer.buffer
      field)
    (spares : SparesEdits key session field) :
    Reported session.screenBuffer.cols base (session.press key).screenBuffer.buffer
      field := by
  rcases spares with isProtected | untouched
  · exact .inl isProtected
  · rcases reported with isProtected | like | shows
    · exact .inl isProtected
    · exact .inr (.inl (charsLike_press valid untouched like))
    · have same := (untouched_iff valid key field).mpr untouched
      exact .inr (.inr ⟨shows.1, shows.2.trans same.symm⟩)

theorem insertChar_reportsEdits (valid : session.screenBuffer.Valid)
    (holds : ReportsEdits base session) {ch : Char}
    (losesNone : LosesNoEdit base (.char ch) session) :
    ReportsEdits base (session.press (.char ch)) := by
  obtain ⟨refused, detected, others⟩ := losesNone
  have fields := @insertChar_fields_iff session.screenBuffer
    (Reported session.screenBuffer.cols base
      (session.press (.char ch)).screenBuffer.buffer)
    valid ch session.insertMode session.circumventProtection
  unfold ReportsEdits
  rw [press_cols]
  apply fields.mpr
  by_cases accepted : session.screenBuffer.Accepts session.screenBuffer.cursorRow
      session.screenBuffer.cursorCol session.circumventProtection
  case neg =>
    rw [if_pos accepted]
    intro field member
    exact reported_press valid (holds field member) (refused accepted field member)
  rw [if_neg (not_not.mpr accepted)]
  by_cases detects : session.screenBuffer.Redetects session.screenBuffer.cursorRow
      session.screenBuffer.cursorCol
  · rw [if_pos detects]
    intro field member
    rcases detected accepted detects field member with isProtected | modified | ⟨like, same⟩
    · exact .inl isProtected
    · exact .inr (.inr ⟨modified, rfl⟩)
    · exact .inr (.inl (charsLike_press valid same like))
  · rw [if_neg detects]
    constructor
    · intro field member
      exact reported_press valid (holds field (List.mem_of_mem_eraseP member))
        (others accepted detects field member)
    · intro field _
      exact .inr (.inr ⟨replaceContent_modified _ field, replaceContent_shows _ field⟩)

theorem eraseInput_reportsEdits (losesNone : LosesNoEdit base .eraseInput session) :
    ReportsEdits base (session.press .eraseInput) := by
  show ∀ field ∈ session.screenBuffer.fields.map Field.eraseInput,
    Reported session.screenBuffer.cols base session.screenBuffer.buffer field
  rw [List.forall_mem_map]
  intro field member
  have spared := losesNone field member
  unfold Field.eraseInput
  cases guarded : field.isProtected with
  | true => exact .inl rfl
  | false =>
      rw [if_neg (by decide)]
      rcases spared with isProtected | like | spaces
      · rw [guarded] at isProtected
        cases isProtected
      · exact .inr (.inl like)
      · exact .inr (.inr ⟨rfl, spaces⟩)

theorem press_reportsEdits (valid : session.screenBuffer.Valid)
    (holds : ReportsEdits base session) (losesNone : LosesNoEdit base key session) :
    ReportsEdits base (session.press key) := by
  have kept : KeepsFields key →
      (∀ field ∈ session.screenBuffer.fields, SparesEdits key session field) →
        ReportsEdits base (session.press key) := by
    intro keeps spares
    unfold ReportsEdits
    rw [press_fields keeps, press_cols]
    intro field member
    exact reported_press valid (holds field member) (spares field member)
  cases key with
  | char ch => exact insertChar_reportsEdits valid holds losesNone
  | eraseInput => exact eraseInput_reportsEdits losesNone
  | backSpace => exact kept trivial losesNone
  | delete => exact kept trivial losesNone
  | eraseEof => exact kept trivial losesNone
  | deleteField => exact kept trivial losesNone
  | moveCursor row col => exact kept trivial losesNone
  | insert => exact kept trivial losesNone
  | circumNot => exact kept trivial losesNone

end Keystroke

theorem losesNoEdit_moveCursor (base : List UInt8) (row col : Nat)
    (session : AsyncSession) : LosesNoEdit base (.moveCursor row col) session :=
  fun _ _ => .inr fun _ _ => rfl

theorem losesNoEdit_char (base : List UInt8) (ch : Char) {session : AsyncSession}
    (accepted : session.screenBuffer.Accepts session.screenBuffer.cursorRow
      session.screenBuffer.cursorCol session.circumventProtection)
    (stays : ¬ session.screenBuffer.Redetects session.screenBuffer.cursorRow
      session.screenBuffer.cursorCol)
    (others : ∀ field ∈ session.screenBuffer.otherFields, field.isProtected = true) :
    LosesNoEdit base (.char ch) session := by
  refine ⟨fun refused => absurd accepted refused, fun _ detects => absurd detects stays,
    fun _ _ field member => ?_⟩
  exact .inl (others field member)

/-- Since the screen that a run starts from, every edit is reported in every state when
no keystroke loses one. -/
theorem reportsEdits_throughout {session : AsyncSession}
    (valid : session.screenBuffer.Valid) {keys : List Keystroke}
    (losesNone : Along press (LosesNoEdit session.screenBuffer.buffer) keys session) :
    Always press (ReportsEdits session.screenBuffer.buffer) keys session := by
  let Kept (state : AsyncSession) : Prop :=
    state.screenBuffer.Valid ∧ ReportsEdits session.screenBuffer.buffer state
  have keeps : ∀ {key : Keystroke} {state : AsyncSession}, Kept state →
      LosesNoEdit session.screenBuffer.buffer key state → Kept (state.press key) :=
    fun kept losesNone =>
      ⟨press_valid kept.1 _, press_reportsEdits kept.1 kept.2 losesNone⟩
  have start : Kept session := ⟨valid, fun _ _ => .inr (.inl fun _ _ _ => rfl)⟩
  have always : Always press Kept keys session :=
    @always_of_along _ _ press Kept _ (fun {_ _} => keeps) keys session start losesNone
  exact always.mono fun kept => kept.2

/-- A letter typed into an input field. -/
theorem reportsEdits_letter :
    Always press (ReportsEdits (afterRecord formRecord).screenBuffer.buffer)
      [.moveCursor 1 0, .char 'a'] (afterRecord formRecord) :=
  reportsEdits_throughout (afterRecord_valid formRecord)
    ⟨losesNoEdit_moveCursor _ 1 0 _,
      losesNoEdit_char _ 'a' (by decide +kernel) (by decide +kernel)
        (by decide +kernel), trivial⟩

/-- A field with one letter. -/
def letterInputRecord : List UInt8 :=
  [0xF5, 0xC3, 0x1D, 0x00, 0xC1]

/-- The letter erased by a backspace is not reported. -/
theorem not_reportsEdits_backSpace :
    ¬ ∀ (record : List UInt8) (keys : List Keystroke),
      Always press (ReportsEdits (afterRecord record).screenBuffer.buffer) keys
        (afterRecord record) := by
  intro claimed
  have last := (claimed letterInputRecord [.moveCursor 0 2, .backSpace]).last
  obtain ⟨field, member, lost⟩ : ∃ field ∈ (run press [.moveCursor 0 2, .backSpace]
      (afterRecord letterInputRecord)).screenBuffer.fields,
        field.isProtected = false ∧ field.modified = false ∧
          field.startIndex (run press [.moveCursor 0 2, .backSpace]
            (afterRecord letterInputRecord)).screenBuffer.cols < 1 ∧
          1 ≤ field.endIndex (run press [.moveCursor 0 2, .backSpace]
            (afterRecord letterInputRecord)).screenBuffer.cols := by decide +kernel
  obtain ⟨unprotected, unmarked, behind, before⟩ := lost
  have erased : (run press [.moveCursor 0 2, .backSpace]
      (afterRecord letterInputRecord)).screenBuffer.buffer[1]? ≠
        (afterRecord letterInputRecord).screenBuffer.buffer[1]? := by decide +kernel
  rcases last field member with isProtected | like | shows
  · rw [unprotected] at isProtected
    cases isProtected
  · exact erased (like 1 behind before)
  · have modified := shows.1
    rw [unmarked] at modified
    cases modified

end AsyncSession

end Pure3270

import Pure3270.Session.LocalEditing

/-!
# Protected cells

A field is protected through its attribute byte alone: typing asks the cell it
writes into whether it is protected, which only the attribute cell answers
with yes, and the other operations do not ask.  A keystroke leaves the guarded
cells alone when it does not reach them, or finds in them what it stores.
-/

namespace Pure3270

open Foundations

namespace ScreenBuffer

/-- A cell that local editing must not change: an attribute cell, or a cell of a
protected field. -/
def Guarded (screen : ScreenBuffer) (pos : Nat) : Prop :=
  pos ∈ screen.fieldStarts ∨
    ∃ field ∈ screen.fields, field.isProtected = true ∧
      containsIndex screen.cols pos field = true

instance (screen : ScreenBuffer) (pos : Nat) : Decidable (screen.Guarded pos) :=
  inferInstanceAs (Decidable (_ ∨ _))

end ScreenBuffer

namespace AsyncSession

/-- Guarded cells hold their bytes, and the field starts are the same. -/
def RespectsProtection (base : ScreenBuffer) (session : AsyncSession) : Prop :=
  (∀ pos, base.Guarded pos →
    session.screenBuffer.buffer[pos]? = base.buffer[pos]?) ∧
    session.screenBuffer.fieldStarts = base.fieldStarts

/-- The guarded cells that a keystroke reaches hold already what it stores. -/
def Spares (guarded : Nat → Prop) (key : Keystroke) (session : AsyncSession) : Prop :=
  let screen := session.screenBuffer
  let cursor := screen.cursorAddress
  let rowEnd := screen.cursorRow * screen.cols + screen.cols
  match key with
  | .char ch =>
      (guarded cursor →
        screen.Accepts screen.cursorRow screen.cursorCol
          session.circumventProtection →
          screen.buffer[cursor]? = some (Ebcdic.encodeChar ch)) ∧
        (session.insertMode → ∀ pos, guarded pos → cursor < pos → pos < rowEnd →
          screen.buffer[pos]? = screen.buffer[pos - 1]?)
  | .backSpace =>
      let target := screen.leftOf screen.getPosition
      guarded (target.1 * screen.cols + target.2) →
        screen.buffer[target.1 * screen.cols + target.2]? = some 0x40
  | .delete =>
      ∀ pos, guarded pos → cursor ≤ pos → pos < rowEnd →
        screen.buffer[pos]? =
          if pos + 1 < rowEnd then screen.buffer[pos + 1]? else some 0x40
  | .eraseEof =>
      ∀ pos, guarded pos → cursor ≤ pos → pos < rowEnd →
        screen.buffer[pos]? = some 0x40
  | .deleteField =>
      ∀ field, screen.getFieldAtPosition screen.cursorRow screen.cursorCol =
        some field →
        ∀ pos, guarded pos → ScreenBuffer.containsIndex screen.cols pos field →
          screen.buffer[pos]? = some 0x40
  | _ => True

section Keystroke

variable {guarded : Nat → Prop} {session : AsyncSession}

/-- What is stored in a cell is what it holds, if anything is stored there. -/
theorem or_eq_right_iff {α : Type} {stored held : Option α} :
    stored.or held = held ↔ ∀ value, stored = some value → held = some value := by
  cases stored with
  | none => simp
  | some value => simp [eq_comm]

theorem spares_char_iff (valid : session.screenBuffer.Valid) (ch : Char) :
    (∀ pos, guarded pos → ∀ byte, session.stores (.char ch) pos = some byte →
      session.screenBuffer.buffer[pos]? = some byte) ↔
      Spares guarded (.char ch) session := by
  have rowEnd := valid.rowEnd_le
  rw [← valid.buffer_length] at rowEnd
  unfold Spares stores
  dsimp only
  constructor
  · intro held
    constructor
    · intro here accepted
      refine held _ here _ ?_
      rw [if_pos rfl, if_pos accepted]
    · intro inserting pos here behind inRow
      have below : pos - 1 < session.screenBuffer.buffer.length := by omega
      have read := List.getElem?_eq_getElem below
      rw [read]
      refine held pos here _ ?_
      rw [if_neg (by omega), if_pos ⟨inserting, behind, inRow⟩, read]
  · rintro ⟨typed, moved⟩ pos here byte stored
    split at stored
    · rename_i same
      subst same
      split at stored
      · rename_i accepted
        rw [← stored]
        exact typed here accepted
      · cases stored
    · split at stored
      · rename_i shifted
        rw [← stored]
        exact moved shifted.1 pos here shifted.2.1 shifted.2.2
      · cases stored

theorem spares_iff (valid : session.screenBuffer.Valid) (key : Keystroke) :
    (∀ pos, guarded pos → ∀ byte, session.stores key pos = some byte →
      session.screenBuffer.buffer[pos]? = some byte) ↔ Spares guarded key session := by
  have rowEnd := valid.rowEnd_le
  rw [← valid.buffer_length] at rowEnd
  cases key with
  | char ch => exact spares_char_iff valid ch
  | backSpace =>
      unfold Spares stores
      dsimp only
      constructor
      · intro held here
        exact held _ here _ (if_pos rfl)
      · intro held pos here byte stored
        split at stored
        · rename_i same
          cases stored
          subst same
          exact held here
        · cases stored
  | delete =>
      unfold Spares stores
      dsimp only
      constructor
      · intro held pos here behind inRow
        split
        · rename_i inner
          have read := List.getElem?_eq_getElem
            (show pos + 1 < session.screenBuffer.buffer.length by omega)
          rw [read]
          refine held pos here _ ?_
          rw [if_pos ⟨behind, inner⟩, read]
        · refine held pos here _ ?_
          rw [if_neg (by omega), if_pos (by omega)]
      · intro held pos here byte stored
        split at stored
        · rename_i inner
          rw [← stored, held pos here inner.1 (by omega), if_pos inner.2]
        · split at stored
          · rename_i last
            have cursor := valid.cursorCol_lt
            have behind : session.screenBuffer.cursorAddress ≤ pos := by
              unfold ScreenBuffer.cursorAddress
              omega
            rw [← stored, held pos here behind (by omega), if_neg (by omega)]
          · cases stored
  | eraseEof =>
      unfold Spares stores
      dsimp only
      constructor
      · intro held pos here behind inRow
        exact held pos here _ (if_pos ⟨behind, inRow⟩)
      · intro held pos here byte stored
        split at stored
        · rename_i inside
          cases stored
          exact held pos here inside.1 inside.2
        · cases stored
  | deleteField =>
      unfold Spares stores
      dsimp only
      constructor
      · intro held field found pos here inside
        refine held pos here _ ?_
        rw [found]
        exact if_pos inside
      · intro held pos here byte stored
        split at stored
        · cases stored
        · rename_i field found
          split at stored
          · rename_i inside
            cases stored
            exact held field found pos here inside
          · cases stored
  | eraseInput => exact iff_of_true (fun _ _ _ => nofun) trivial
  | moveCursor row col => exact iff_of_true (fun _ _ _ => nofun) trivial
  | insert => exact iff_of_true (fun _ _ _ => nofun) trivial
  | circumNot => exact iff_of_true (fun _ _ _ => nofun) trivial

theorem press_respectsProtection_iff {base : ScreenBuffer}
    (valid : session.screenBuffer.Valid) (holds : RespectsProtection base session)
    (key : Keystroke) :
    RespectsProtection base (session.press key) ↔ Spares base.Guarded key session := by
  rw [← spares_iff valid, RespectsProtection, press_fieldStarts,
    and_iff_left holds.2]
  refine forall_congr' fun pos => forall_congr' fun here => ?_
  rw [press_byteAfter valid, ← holds.1 pos here, byteAfter, or_eq_right_iff]

end Keystroke

/-- In every state of a run the guarded cells of the first screen are as they
were, exactly when every keystroke spares them. -/
theorem respectsProtection_iff {session : AsyncSession}
    (valid : session.screenBuffer.Valid) (keys : List Keystroke) :
    Always press (RespectsProtection session.screenBuffer) keys session ↔
      Along press (Spares session.screenBuffer.Guarded) keys session :=
  always_iff_along
    (fun key {session : AsyncSession} (valid : session.screenBuffer.Valid) =>
      press_valid valid key)
    (fun key _ valid holds => press_respectsProtection_iff valid holds key)
    valid ⟨fun _ _ => rfl, rfl⟩

/-- A letter typed into the input field. -/
theorem respectsProtection_letter :
    Always press (RespectsProtection (afterRecord formRecord).screenBuffer)
      [.moveCursor 1 0, .char 'a'] (afterRecord formRecord) := by
  refine (respectsProtection_iff (afterRecord_valid formRecord) _).mpr
    ⟨trivial, ⟨fun guarded => ?_, nofun⟩, trivial⟩
  revert guarded
  decide +kernel

/-- A backspace behind an attribute cell erases the attribute byte. -/
theorem not_respectsProtection_backSpace :
    ¬ ∀ (record : List UInt8) (keys : List Keystroke), .circumNot ∉ keys →
      Always press (RespectsProtection (afterRecord record).screenBuffer) keys
        (afterRecord record) := by
  intro claimed
  have always := claimed formRecord [.moveCursor 0 1, .backSpace] (by decide)
  have erased := always.last.1 0 (by decide +kernel)
  revert erased
  decide +kernel

end AsyncSession

end Pure3270

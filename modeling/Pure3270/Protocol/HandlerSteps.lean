import Mathlib.Logic.Relation
import Pure3270.Emulation.ScreenInvariant
import Pure3270.Protocol.OrderHandlers

/-!
# What an order handler can do

Every handler moves the parser by a finite number of elementary steps: the
reader advances inside the data, its mirror catches up, the screen takes one
of a few primitive changes, or an attached object is called.  This is shown
once for each handler, on normal and exceptional exits alike.  A property of
whole handlers is then a property of the elementary steps.
-/

namespace Pure3270

open Foundations Relation

/-- The elementary changes of the screen. -/
inductive ScreenStep (screen : ScreenBuffer) : ScreenBuffer → Prop where
  | setPosition (row col : Nat) : ScreenStep screen (screen.setPosition row col)
  | insertByte (byte : UInt8) (row : screen.cursorRow < screen.rows)
      (col : screen.cursorCol < screen.cols) :
      ScreenStep screen (screen.insertByte byte)
  | setAttribute (attr : UInt8) : ScreenStep screen (screen.setAttribute attr none)
  | markCursor :
      ScreenStep screen
        { screen with fieldStarts := screen.fieldStarts.insert screen.cursorAddress }
  | setExtended (attrType attrValue : UInt8) (position : Option (Nat × Nat)) :
      ScreenStep screen
        (screen.setExtendedAttributeSfe attrType attrValue position)
  | eraseCell (position : Nat × Nat) :
      ScreenStep screen (screen.writeChar 0x40 (some position) false true false)
  | firstInput : ScreenStep screen screen.moveCursorToFirstInputField
  | programTab : ScreenStep screen screen.programTab

/-- The elementary changes of the parser while a handler runs. -/
inductive HandlerStep (parser : DataStreamParser) : DataStreamParser → Prop where
  | advance (count : Nat) (available : count ≤ parser.remaining) :
      HandlerStep parser { parser with parserPos := parser.parserPos + count }
  | mirror : HandlerStep parser { parser with pos := parser.parserPos }
  | screen {next : ScreenBuffer} (step : ScreenStep parser.screen next) :
      HandlerStep parser { parser with screen := next }
  | fieldStarted (pos : Nat) :
      HandlerStep parser { parser with lastFieldStartPos := some pos }
  | call (made : CollaboratorCall) :
      HandlerStep parser { parser with calls := parser.calls ++ [made] }

abbrev HandlerSteps : DataStreamParser → DataStreamParser → Prop :=
  ReflTransGen HandlerStep

/-- The elementary changes other than the start of a field. -/
structure OrdinaryStep (before after : DataStreamParser) : Prop where
  step : HandlerStep before after
  last : after.lastFieldStartPos = before.lastFieldStartPos

abbrev OrdinarySteps : DataStreamParser → DataStreamParser → Prop :=
  ReflTransGen OrdinaryStep

theorem OrdinarySteps.steps {before after : DataStreamParser}
    (ordinary : OrdinarySteps before after) : HandlerSteps before after :=
  ReflTransGen.mono (fun _ _ => OrdinaryStep.step) _ _ ordinary

theorem OrdinarySteps.last {before after : DataStreamParser}
    (ordinary : OrdinarySteps before after) :
    after.lastFieldStartPos = before.lastFieldStartPos := by
  induction ordinary with
  | refl => rfl
  | tail _ step ih => exact step.last.trans ih

theorem within_ordinary {m : ParserM α} (ordinary : Within OrdinarySteps m) :
    Within HandlerSteps m :=
  Within.mono ordinary fun _ _ => OrdinarySteps.steps

theorem OrdinarySteps.ofScreen {parser : DataStreamParser} {next : ScreenBuffer}
    (steps : ReflTransGen ScreenStep parser.screen next) :
    OrdinarySteps parser { parser with screen := next } := by
  induction steps with
  | refl => exact .refl
  | tail _ last ih => exact ih.tail ⟨.screen last, rfl⟩

namespace ScreenBuffer

@[simp] theorem setAttribute_cursorAddress (attr : UInt8)
    (position : Option (Nat × Nat)) (screen : ScreenBuffer) :
    (screen.setAttribute attr position).cursorAddress = screen.cursorAddress := by
  unfold setAttribute
  simp only
  split
  · split <;> rfl
  · rfl

theorem applySfePair_steps (attrType attrValue : UInt8) (screen : ScreenBuffer) :
    ReflTransGen ScreenStep screen (screen.applySfePair attrType attrValue) := by
  unfold applySfePair
  split
  · exact .single (.setAttribute attrValue)
  · split
    · exact .single (.setExtended attrType attrValue none)
    · exact .refl

theorem eraseUnprotectedCell_steps (position : Nat × Nat)
    (screen : ScreenBuffer) :
    ReflTransGen ScreenStep screen (screen.eraseUnprotectedCell position) := by
  unfold eraseUnprotectedCell
  split
  · split
    · exact .refl
    · exact .single (.eraseCell position)
  · exact .single (.eraseCell position)

theorem eraseUnprotected_steps (count : Nat) (position : Nat × Nat)
    (screen : ScreenBuffer) :
    ReflTransGen ScreenStep screen (screen.eraseUnprotected count position) := by
  induction count generalizing position screen with
  | zero => exact .refl
  | succ count ih =>
      exact (eraseUnprotectedCell_steps position screen).trans (ih _ _)

end ScreenBuffer

namespace DataStreamParser

theorem remaining_of_getElem? {parser : DataStreamParser} {byte : UInt8}
    (here : parser.data[parser.parserPos]? = some byte) :
    1 ≤ parser.remaining := by
  have inside := (List.getElem?_eq_some_iff.mp here).1
  unfold remaining
  omega

theorem parserReadByte_steps : Within OrdinarySteps parserReadByte := by
  intro parser
  unfold parserReadByte
  apply WithinAt.getBind
  cases here : parser.data[parser.parserPos]? with
  | none => exact WithinAt.throw _
  | some byte =>
      exact .single ⟨.advance 1 (remaining_of_getElem? here), rfl⟩

theorem readByte_steps : Within OrdinarySteps readByte := by
  intro parser
  unfold readByte
  apply WithinAt.getBind
  simp only
  split
  · exact WithinAt.throw _
  · cases here : parser.data[parser.parserPos]? with
    | none => exact WithinAt.throw _
    | some byte =>
        have advanced : OrdinaryStep parser _ :=
          ⟨.advance 1 (remaining_of_getElem? here), rfl⟩
        exact (ReflTransGen.single advanced).tail ⟨.mirror, rfl⟩

theorem withMessage_steps {m : ParserM α} (message : DataStreamParser → String)
    (body : Within OrdinarySteps m) :
    Within OrdinarySteps (withMessage message m) := by
  refine Within.tryCatch body fun fault => ?_
  cases fault with
  | parseError text => exact fun _ => WithinAt.getBind (WithinAt.throw _)
  | other text => exact fun _ => WithinAt.throw _

theorem readByteSafe_steps (operation : String) :
    Within OrdinarySteps (readByteSafe operation) :=
  withMessage_steps _ readByte_steps

theorem attempt_steps {m : ParserM α} (body : Within OrdinarySteps m) :
    Within OrdinarySteps (attempt m) := by
  refine Within.tryCatch
    (Within.bind body fun value _ => WithinAt.pure _) fun fault => ?_
  cases fault with
  | parseError text => exact fun _ => WithinAt.pure _
  | other text => exact fun _ => WithinAt.throw _

theorem swallow_steps {m : ParserM Unit} (body : Within OrdinarySteps m) :
    Within OrdinarySteps (swallow m) :=
  Within.tryCatch body fun _ _ => WithinAt.pure ()

theorem validateMinData_steps (operation : String) (minBytes : Nat) :
    Within OrdinarySteps (validateMinData operation minBytes) :=
  fun _ => WithinAt.getBind
    (WithinAt.ite (fun _ => WithinAt.throw _) (fun _ => WithinAt.pure ()))

theorem readAddress_steps : Within OrdinarySteps readAddress :=
  Within.bind readByte_steps fun _ =>
    Within.bind readByte_steps fun _ _ =>
      WithinAt.getBind (WithinAt.pure _)

theorem modifyScreen_steps {f : ScreenBuffer → ScreenBuffer}
    (steps : ∀ screen, ReflTransGen ScreenStep screen (f screen)) :
    Within OrdinarySteps (modifyScreen f) :=
  fun parser => OrdinarySteps.ofScreen (steps parser.screen)

theorem modifyScreen_step {f : ScreenBuffer → ScreenBuffer}
    (step : ∀ screen, ScreenStep screen (f screen)) :
    Within OrdinarySteps (modifyScreen f) :=
  modifyScreen_steps fun screen => .single (step screen)

theorem mirrorPos_steps : Within OrdinarySteps mirrorPos :=
  fun _ => ReflTransGen.single ⟨.mirror, rfl⟩

theorem call_steps (made : CollaboratorCall) :
    Within OrdinarySteps (call made) :=
  fun _ => ReflTransGen.single ⟨.call made, rfl⟩

theorem insertData_steps (byte : UInt8) :
    Within OrdinarySteps (insertData byte) := by
  intro parser
  unfold insertData
  split
  · exact WithinAt.pure ()
  · apply WithinAt.getBind
    apply WithinAt.ite
    · intro onScreen
      exact WithinAt.ite
        (fun _ => ReflTransGen.single
          ⟨.screen (.insertByte byte onScreen.1 onScreen.2), rfl⟩)
        (fun _ => WithinAt.throw _)
    · exact fun _ => WithinAt.throw _

theorem handleSba_steps : Within OrdinarySteps handleSba := by
  intro parser
  unfold handleSba
  apply WithinAt.getBind
  apply WithinAt.ite
  · exact fun _ => WithinAt.throw _
  · intro _
    refine (readAddress_steps parser).bind fun address after _ => ?_
    apply WithinAt.getBind
    cases after.screen.targetOf address after.addressingMode with
    | none => exact WithinAt.pure ()
    | some target =>
        exact Within.bind
          (modifyScreen_step fun _ => .setPosition target.1 target.2)
          (fun _ => mirrorPos_steps) after

theorem handleSf_steps : Within HandlerSteps handleSf := by
  refine Within.bind (within_ordinary (validateMinData_steps "SF" 1)) fun _ => ?_
  refine Within.bind (within_ordinary (readByteSafe_steps "SF")) fun attr parser => ?_
  apply WithinAt.getBind
  refine WithinAt.bind
    (within_ordinary (modifyScreen_step fun _ => .setAttribute attr) parser)
    fun _ marked changed => ?_
  refine WithinAt.bind ?_ fun _ after _ => ?_
  · have step : ScreenStep marked.screen _ := .markCursor
    cases changed
    simp only [ScreenBuffer.setAttribute_cursorAddress] at step
    exact ReflTransGen.single (.screen step)
  · refine Within.bind (fun _ => ReflTransGen.single (.fieldStarted _))
      (fun _ => ?_) after
    exact within_ordinary (Within.bind (modifyScreen_step fun _ => .setPosition _ _)
      fun _ => mirrorPos_steps)

theorem modifyFieldPairs_steps (target : Nat × Nat) (fuel : Nat) :
    Within OrdinarySteps (modifyFieldPairs target fuel) := by
  induction fuel with
  | zero => exact fun _ => WithinAt.pure ()
  | succ fuel ih =>
      intro parser
      unfold modifyFieldPairs
      apply WithinAt.getBind
      apply WithinAt.ite
      · exact fun _ => WithinAt.pure ()
      · intro _
        refine Within.bind readByte_steps (fun attrType => ?_) parser
        refine Within.bind readByte_steps fun attrValue => ?_
        exact Within.bind
          (modifyScreen_step fun _ => .setExtended attrType attrValue (some target))
          fun _ => ih

theorem handleMf_steps : Within OrdinarySteps handleMf :=
  Within.bind (validateMinData_steps "MF" 2) fun _ _ =>
    WithinAt.getBind (modifyFieldPairs_steps _ _ _)

theorem handleRa_steps : Within OrdinarySteps handleRa := by
  refine Within.bind (validateMinData_steps "RA" 3) fun _ before => ?_
  apply WithinAt.getBind
  refine Within.bind readAddress_steps (fun address => ?_) before
  refine Within.bind (readByteSafe_steps "RA") fun charToRepeat => ?_
  cases before.screen.targetOf address before.addressingMode with
  | none => exact fun _ => WithinAt.pure ()
  | some target =>
      exact Within.bind (Within.times (insertData_steps charToRepeat) _)
        fun _ => modifyScreen_step fun _ => .setPosition target.1 target.2

theorem handleEua_steps : Within OrdinarySteps handleEua := by
  refine Within.bind (validateMinData_steps "EUA" 2) fun _ before => ?_
  apply WithinAt.getBind
  refine Within.bind readAddress_steps (fun address => ?_) before
  cases before.screen.targetOf address before.addressingMode with
  | none => exact fun _ => WithinAt.pure ()
  | some target =>
      exact Within.bind
        (modifyScreen_steps fun screen => screen.eraseUnprotected_steps _ _)
        fun _ => modifyScreen_step fun _ => .setPosition target.1 target.2

theorem handleGe_steps : Within OrdinarySteps handleGe :=
  Within.bind (validateMinData_steps "GE" 1) fun _ =>
    Within.bind readByte_steps fun _ => insertData_steps _

theorem writeToPrinter_steps (data : List UInt8) :
    Within OrdinarySteps (writeToPrinter data) := by
  intro parser
  unfold writeToPrinter
  apply WithinAt.getBind
  cases parser.printer with
  | none => exact WithinAt.pure ()
  | some printer =>
      refine Within.bind (call_steps _) (fun _ => ?_) parser
      cases printer.writeScsDataRaises data with
      | none => exact fun _ => WithinAt.pure ()
      | some message => exact fun _ => WithinAt.throw _

theorem handleScs_steps : Within OrdinarySteps handleScs := by
  intro parser
  unfold handleScs
  apply WithinAt.getBind
  apply WithinAt.ite
  · exact fun _ => WithinAt.throw _
  · intro _
    refine Within.bind readByte_steps (fun code _ => ?_) parser
    exact WithinAt.ite (fun _ => writeToPrinter_steps _ _)
      (fun _ => WithinAt.pure ())

theorem readSfePairs_steps (numPairs : Nat) (baseAttrSet : Bool) :
    Within OrdinarySteps (readSfePairs numPairs baseAttrSet) := by
  induction numPairs generalizing baseAttrSet with
  | zero => exact fun _ => WithinAt.pure _
  | succ numPairs ih =>
      intro parser
      unfold readSfePairs
      apply WithinAt.getBind
      apply WithinAt.ite
      · exact fun _ => WithinAt.pure _
      · intro _
        refine Within.bind (withMessage_steps _ readByte_steps)
          (fun attrType => ?_) parser
        refine Within.bind (withMessage_steps _ readByte_steps) fun attrValue => ?_
        exact Within.bind
          (modifyScreen_steps fun screen => screen.applySfePair_steps _ _)
          fun _ => ih _

theorem handleSfe_steps : Within OrdinarySteps handleSfe := by
  intro parser
  unfold handleSfe
  apply WithinAt.getBind
  apply WithinAt.ite
  · exact fun _ => WithinAt.pure ()
  · intro _
    refine Within.bind (withMessage_steps _ readByte_steps) (fun length => ?_) parser
    refine Within.bind (readSfePairs_steps _ _) fun baseAttrSet _ => ?_
    exact WithinAt.ite
      (fun _ => modifyScreen_step (fun _ => .setPosition _ _) _)
      (fun _ => WithinAt.pure ())

theorem handleSfePayload_steps (payload : List UInt8) :
    Within OrdinarySteps (handleSfePayload payload) := by
  induction payload using handleSfePayload.induct with
  | case1 attrType attrValue rest ih =>
      exact Within.bind
        (modifyScreen_steps fun screen => screen.applySfePair_steps _ _)
        fun _ => ih
  | case2 payload noPair =>
      unfold handleSfePayload
      split
      · exact absurd rfl (noPair _ _ _)
      · exact fun _ => WithinAt.pure ()

theorem handleSa_steps : Within OrdinarySteps handleSa := by
  intro parser
  unfold handleSa
  apply WithinAt.getBind
  apply WithinAt.ite
  · exact fun _ => WithinAt.throw _
  · intro _
    refine Within.bind readByte_steps (fun attrType => ?_) parser
    refine Within.bind readByte_steps fun attrValue after => ?_
    apply WithinAt.getBind
    exact modifyScreen_step (fun _ => .setExtended attrType attrValue _) after

/-- The only control code that `0x40` introduces changes nothing. -/
theorem handleDataStreamCtlOrder_eq (parser : DataStreamParser) :
    handleDataStreamCtlOrder parser =
      if parser.data[parser.parserPos]? = some 0x01 then
        .ok () { parser with parserPos := parser.parserPos + 1 }
      else insertData 0x40 parser := by
  have unfolded : handleDataStreamCtlOrder parser =
      parser.data[parser.parserPos]?.elim (insertData 0x40)
        (fun nextByte =>
          if nextByte = 0x01 then do
            let ctl ← parserReadByte
            handleDataStreamCtl ctl
          else insertData 0x40) parser := by
    show handleDataStreamCtlOrder parser = _
    unfold handleDataStreamCtlOrder
    rw [run_get_bind]
    cases parser.data[parser.parserPos]? <;> rfl
  rw [unfolded]
  cases here : parser.data[parser.parserPos]? with
  | none => simp
  | some nextByte =>
      by_cases control : nextByte = 0x01
      · subst control
        have read : parserReadByte parser =
            .ok 0x01 { parser with parserPos := parser.parserPos + 1 } := by
          unfold parserReadByte
          rw [run_get_bind, here]
          rfl
        show EStateM.bind parserReadByte _ parser = _
        unfold EStateM.bind
        rw [read]
        rfl
      · simp [control]

theorem handleDataStreamCtlOrder_steps :
    Within OrdinarySteps handleDataStreamCtlOrder := by
  intro parser
  unfold WithinAt
  rw [handleDataStreamCtlOrder_eq]
  split
  · rename_i here
    exact .single ⟨.advance 1 (remaining_of_getElem? here), rfl⟩
  · exact insertData_steps 0x40 parser

theorem sfHandlers_steps (sfType : UInt8) (data : List UInt8) :
    Within OrdinarySteps (sfHandlers sfType data) := by
  unfold sfHandlers
  split
  · exact fun _ => WithinAt.getBind
      (WithinAt.ite (fun _ => call_steps _ _) (fun _ => WithinAt.pure ()))
  · exact handleSfePayload_steps data
  · exact fun _ => WithinAt.getBind
      (WithinAt.ite (fun _ => call_steps _ _) (fun _ => WithinAt.pure ()))
  · intro parser
    apply WithinAt.getBind
    cases data with
    | nil => exact WithinAt.pure ()
    | cons statusCode rest =>
        exact WithinAt.ite (fun _ => call_steps _ _) (fun _ => WithinAt.pure ())
  · exact fun _ => WithinAt.getBind
      (WithinAt.ite (fun _ => call_steps _ _) (fun _ => WithinAt.pure ()))
  · exact fun _ => WithinAt.pure ()

theorem structuredFieldEnd_bounds (data : List UInt8) {start : Nat}
    (inside : start ≤ data.length) :
    start ≤ structuredFieldEnd data start ∧
      structuredFieldEnd data start ≤ data.length := by
  unfold structuredFieldEnd
  simp only
  split
  · rename_i low first second
    have bound := (List.getElem?_eq_some_iff.mp second).1
    split <;> omega
  · rename_i first _
    have bound := (List.getElem?_eq_some_iff.mp first).1
    split <;> omega
  · exact ⟨Nat.le_refl _, inside⟩

theorem skipStructuredField_steps : Within OrdinarySteps skipStructuredField := by
  intro parser
  apply WithinAt.modify
  generalize startEq : (if parser.data[parser.parserPos]? = some 0x88 then
    parser.parserPos + 1 else parser.parserPos) = start
  by_cases inside : parser.parserPos ≤ parser.data.length
  · have startInside : parser.parserPos ≤ start ∧ start ≤ parser.data.length := by
      subst startEq
      split
      · rename_i here
        have bound := (List.getElem?_eq_some_iff.mp here).1
        omega
      · omega
    have bounds := structuredFieldEnd_bounds parser.data startInside.2
    have advanced : HandlerStep parser
        { parser with parserPos := structuredFieldEnd parser.data start } := by
      have step : HandlerStep parser _ :=
        .advance (structuredFieldEnd parser.data start - parser.parserPos)
          (by unfold remaining; omega)
      rwa [Nat.add_sub_of_le (by omega)] at step
    have ordinary : OrdinaryStep parser _ := ⟨advanced, rfl⟩
    exact (ReflTransGen.single ordinary).tail ⟨.mirror, rfl⟩
  · have beyond : parser.data[parser.parserPos]? = none := by
      rw [List.getElem?_eq_none_iff]
      omega
    have same : structuredFieldEnd parser.data start = parser.parserPos := by
      simp [← startEq, structuredFieldEnd, beyond]
    simp only [same]
    exact .single ⟨.mirror, rfl⟩

theorem readStructuredFieldBody_steps (length : Nat) :
    Within OrdinarySteps (readStructuredFieldBody length) := by
  refine Within.bind (attempt_steps readByte_steps) fun result => ?_
  cases result with
  | none => exact fun _ => WithinAt.pure ()
  | some sfType =>
      intro parser
      apply WithinAt.getBind
      refine WithinAt.bind ?_ fun _ after _ => swallow_steps (sfHandlers_steps _ _) after
      exact ReflTransGen.single ⟨.advance _ (Nat.min_le_right _ _), rfl⟩

theorem readHeader_steps : Within OrdinarySteps handleStructuredField.readHeader := by
  intro parser
  unfold handleStructuredField.readHeader
  apply WithinAt.getBind
  apply WithinAt.ite
  · exact fun _ => skipStructuredField_steps parser
  · intro _
    refine Within.bind (attempt_steps readByte_steps) (fun lengthHigh => ?_) parser
    cases lengthHigh with
    | none => exact skipStructuredField_steps
    | some lengthHigh =>
        refine Within.bind (attempt_steps readByte_steps) fun lengthLow => ?_
        cases lengthLow with
        | none => exact skipStructuredField_steps
        | some lengthLow =>
            intro after
            apply WithinAt.getBind
            exact WithinAt.ite (fun _ => skipStructuredField_steps after)
              (fun _ => WithinAt.ite (fun _ => skipStructuredField_steps after)
                (fun _ => readStructuredFieldBody_steps _ after))

theorem handleStructuredField_steps : Within OrdinarySteps handleStructuredField := by
  intro parser
  unfold handleStructuredField
  apply WithinAt.getBind
  apply WithinAt.ite
  · intro _
    refine Within.bind (attempt_steps readByte_steps) (fun result => ?_) parser
    cases result with
    | none => exact fun _ => WithinAt.pure ()
    | some byte => exact readHeader_steps
  · exact fun _ => readHeader_steps parser

/-- Every order but SF, however it exits, is a sequence of ordinary steps. -/
theorem orderHandlers_ordinary {byte : UInt8} {handler : ParserM Unit}
    (found : orderHandlers byte = some handler) (other : byte ≠ 0x1D) :
    Within OrdinarySteps handler := by
  unfold orderHandlers at found
  split at found <;> cases found
  · exact handleSba_steps
  · exact absurd rfl other
  · exact handleMf_steps
  · exact handleRa_steps
  · exact handleEua_steps
  · exact handleGe_steps
  · exact modifyScreen_step fun _ => .firstInput
  · exact modifyScreen_step fun _ => .programTab
  · exact handleSfe_steps
  · exact handleSa_steps
  · exact handleStructuredField_steps
  · exact handleDataStreamCtlOrder_steps
  · exact handleScs_steps

end DataStreamParser

/-- Equality of everything an order leaves alone. -/
structure SameFrame (before after : ScreenBuffer) : Prop where
  rows : after.rows = before.rows
  cols : after.cols = before.cols
  codepage : after.codepage = before.codepage
  asciiMode : after.asciiMode = before.asciiMode
  lightPen : after.lightPenSelectedPosition = before.lightPenSelectedPosition
  suspended : after.suspendFieldDetection = before.suspendFieldDetection
  asciiFields : after.asciiFields = before.asciiFields
  keyboardLocked : after.keyboardLocked = before.keyboardLocked

instance : IsPreorder ScreenBuffer SameFrame where
  refl _ := ⟨rfl, rfl, rfl, rfl, rfl, rfl, rfl, rfl⟩
  trans _ _ _ left right :=
    ⟨right.rows.trans left.rows, right.cols.trans left.cols,
      right.codepage.trans left.codepage, right.asciiMode.trans left.asciiMode,
      right.lightPen.trans left.lightPen, right.suspended.trans left.suspended,
      right.asciiFields.trans left.asciiFields,
      right.keyboardLocked.trans left.keyboardLocked⟩

namespace ScreenBuffer

theorem setAttribute_frame (attr : UInt8) (position : Option (Nat × Nat))
    (screen : ScreenBuffer) :
    SameFrame screen (screen.setAttribute attr position) := by
  unfold setAttribute
  simp only
  split
  · split <;> exact ⟨rfl, rfl, rfl, rfl, rfl, rfl, rfl, rfl⟩
  · exact refl_of SameFrame screen

theorem setExtendedAttributeSfe_frame (attrType attrValue : UInt8)
    (position : Option (Nat × Nat)) (screen : ScreenBuffer) :
    SameFrame screen
      (screen.setExtendedAttributeSfe attrType attrValue position) := by
  unfold setExtendedAttributeSfe
  simp only
  split
  · exact refl_of SameFrame screen
  · exact ⟨rfl, rfl, rfl, rfl, rfl, rfl, rfl, rfl⟩

theorem updateFieldContent_frame (row col : Nat) (screen : ScreenBuffer) :
    SameFrame screen (screen.updateFieldContent row col).1 := by
  unfold updateFieldContent
  split
  · exact ⟨rfl, rfl, rfl, rfl, rfl, rfl, rfl, rfl⟩
  · exact refl_of SameFrame screen

theorem writeChar_frame (byte : UInt8) (position : Option (Nat × Nat))
    (isProtected circumventProtection markFieldStart : Bool)
    (screen : ScreenBuffer) :
    SameFrame screen
      (screen.writeChar byte position isProtected circumventProtection
        markFieldStart) := by
  unfold writeChar
  simp only
  split
  · exact refl_of SameFrame screen
  split
  · exact refl_of SameFrame screen
  split
  · exact refl_of SameFrame screen
  split
  · exact refl_of SameFrame screen
  generalize markedEq : (if markFieldStart = true then _ else _) = marked
  have markedFrame : SameFrame screen marked := by
    subst markedEq
    split <;> exact ⟨rfl, rfl, rfl, rfl, rfl, rfl, rfl, rfl⟩
  generalize movedEq : (if position.isSome = true then _ else _) = moved
  have movedFrame : SameFrame screen moved := by
    refine trans_of SameFrame markedFrame ?_
    subst movedEq
    split <;> exact ⟨rfl, rfl, rfl, rfl, rfl, rfl, rfl, rfl⟩
  have updatedFrame := trans_of SameFrame movedFrame
    (moved.updateFieldContent_frame (position.getD screen.getPosition).1
      (position.getD screen.getPosition).2)
  split
  · rename_i updated found
    rw [found] at updatedFrame
    refine trans_of SameFrame updatedFrame ?_
    exact ⟨rfl, rfl, rfl, rfl, rfl, rfl, rfl, rfl⟩
  · rename_i updated found
    rw [found] at updatedFrame
    split
    · refine trans_of SameFrame updatedFrame ?_
      exact ⟨rfl, rfl, rfl, rfl, rfl, rfl, rfl, rfl⟩
    · exact updatedFrame

end ScreenBuffer

theorem ScreenStep.frame {before after : ScreenBuffer}
    (step : ScreenStep before after) : SameFrame before after := by
  cases step with
  | setPosition row col => exact ⟨rfl, rfl, rfl, rfl, rfl, rfl, rfl, rfl⟩
  | insertByte byte row col =>
      unfold ScreenBuffer.insertByte
      simp only
      split <;> exact ⟨rfl, rfl, rfl, rfl, rfl, rfl, rfl, rfl⟩
  | setAttribute attr => exact before.setAttribute_frame attr none
  | markCursor => exact ⟨rfl, rfl, rfl, rfl, rfl, rfl, rfl, rfl⟩
  | setExtended attrType attrValue position =>
      exact before.setExtendedAttributeSfe_frame attrType attrValue position
  | eraseCell position => exact before.writeChar_frame _ _ _ _ _
  | firstInput =>
      unfold ScreenBuffer.moveCursorToFirstInputField
      split
      · exact ⟨rfl, rfl, rfl, rfl, rfl, rfl, rfl, rfl⟩
      · exact refl_of SameFrame before
  | programTab =>
      unfold ScreenBuffer.programTab ScreenBuffer.moveCursorToNextInputField
      split
      · exact ⟨rfl, rfl, rfl, rfl, rfl, rfl, rfl, rfl⟩
      · exact refl_of SameFrame before

theorem ScreenStep.run {R : ScreenBuffer → ScreenBuffer → Prop}
    [IsPreorder ScreenBuffer R]
    (step : ∀ {before after}, ScreenStep before after → R before after)
    {before after : ScreenBuffer} (steps : ReflTransGen ScreenStep before after) :
    R before after := by
  induction steps with
  | refl => exact refl_of R before
  | tail _ last ih => exact trans_of R ih (step last)

theorem HandlerSteps.screen {R : ScreenBuffer → ScreenBuffer → Prop}
    [IsPreorder ScreenBuffer R]
    (step : ∀ {before after}, ScreenStep before after → R before after)
    {before after : DataStreamParser} (steps : HandlerSteps before after) :
    R before.screen after.screen := by
  induction steps with
  | refl => exact refl_of R before.screen
  | tail _ last ih =>
      refine trans_of R ih ?_
      cases last with
      | screen change => exact step change
      | advance => exact refl_of R _
      | mirror => exact refl_of R _
      | fieldStarted => exact refl_of R _
      | call => exact refl_of R _

theorem HandlerSteps.frame {before after : DataStreamParser}
    (steps : HandlerSteps before after) :
    SameFrame before.screen after.screen :=
  steps.screen ScreenStep.frame

end Pure3270

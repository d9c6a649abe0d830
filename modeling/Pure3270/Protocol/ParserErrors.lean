import Pure3270.Foundations.Failures
import Pure3270.Protocol.ParserSafety

/-!
# Errors of a record

The handlers write their own error texts, and none of these names one of the
orders whose errors are fatal.  Without a printer nothing else is raised, so
the order loop always returns, and the only record that raises is an erase
command with nothing behind it.  A printer's exception leaves the parse under
another name.
-/

namespace Pure3270

open Foundations

/-- The text holds none of the letters that tell the fatal errors apart. -/
def Plain (text : String) : Prop :=
  ∀ char ∈ text.toList, char ≠ 'W' ∧ char ≠ 'D'

theorem plain_append {first second : String} (left : Plain first)
    (right : Plain second) : Plain (first ++ second) := by
  intro char member
  rw [String.toList_append, List.mem_append] at member
  rcases member with here | here
  · exact left char here
  · exact right char here

theorem plain_nat (number : Nat) : Plain (toString number) := by
  intro char member
  have digit : char.isDigit = true :=
    Nat.isDigit_of_mem_toDigits (b := 10) (n := number) (by decide) (by decide)
      (by simpa [Nat.repr] using member)
  constructor
  · rintro rfl
    cases digit
  · rintro rfl
    cases digit

theorem plain_of_chars {text : String}
    (chars : (text.toList.all fun char => char ≠ 'W' && char ≠ 'D') = true) :
    Plain text := by
  intro char member
  simpa using List.all_eq_true.mp chars char member

theorem not_fatal_of_plain {text : String} (plain : Plain text) :
    isFatalError text = false := by
  have absent : ∀ part : String, (∃ char ∈ part.toList, char = 'W' ∨ char = 'D') →
      occursIn part text = false := by
    rintro part ⟨char, inside, letter⟩
    rw [Bool.eq_false_iff]
    intro occurs
    have member := (of_decide_eq_true occurs).subset inside
    rcases letter with rfl | rfl
    · exact (plain _ member).1 rfl
    · exact (plain _ member).2 rfl
  simp only [isFatalError, List.any_cons, List.any_nil, Bool.or_false,
    Bool.or_eq_false_iff]
  exact ⟨absent _ ⟨'W', by decide, .inl rfl⟩, absent _ ⟨'D', by decide, .inr rfl⟩,
    absent _ ⟨'D', by decide, .inr rfl⟩⟩

/-- The errors of handlers: parse errors that are not fatal. -/
def Fault.Minor : Fault → Prop
  | .parseError text => Plain text
  | .other _ => False

namespace DataStreamParser

theorem parserReadByte_raises : RaisesOnly Fault.Minor parserReadByte := by
  intro parser
  unfold parserReadByte
  apply RaisesOnlyAt.getBind
  cases parser.data[parser.parserPos]? with
  | none => exact RaisesOnlyAt.throw (plain_of_chars (by decide))
  | some byte => rintro failure after ⟨⟩

theorem readByte_raises : RaisesOnly Fault.Minor readByte := by
  intro parser
  unfold readByte
  apply RaisesOnlyAt.getBind
  simp only
  split
  · exact RaisesOnlyAt.throw (plain_of_chars (by decide))
  · cases parser.data[parser.parserPos]? with
    | none => exact RaisesOnlyAt.throw (plain_of_chars (by decide))
    | some byte => rintro failure after ⟨⟩

theorem withMessage_raises {message : DataStreamParser → String} {m : ParserM α}
    (plain : ∀ parser, Plain (message parser)) (body : RaisesOnly Fault.Minor m) :
    RaisesOnly Fault.Minor (withMessage message m) := by
  refine fun parser => (body parser).tryCatch fun fault after minor _ => ?_
  cases fault with
  | parseError text => exact RaisesOnlyAt.getBind (RaisesOnlyAt.throw (plain after))
  | other text => exact minor.elim

theorem readByteSafe_raises {operation : String} (plain : Plain operation) :
    RaisesOnly Fault.Minor (readByteSafe operation) := by
  refine withMessage_raises (fun parser => ?_) readByte_raises
  have before : Plain (toString "Incomplete ") := plain_of_chars (by decide)
  have between : Plain (toString " order at position ") := plain_of_chars (by decide)
  exact plain_append (plain_append (plain_append before plain) between) (plain_nat _)

theorem validateMinData_raises {operation : String} (minBytes : Nat)
    (plain : Plain operation) :
    RaisesOnly Fault.Minor (validateMinData operation minBytes) := by
  refine fun parser => RaisesOnlyAt.getBind
    (RaisesOnlyAt.ite (fun _ => RaisesOnlyAt.throw ?_) fun _ => RaisesOnlyAt.pure ())
  have before : Plain (toString "Incomplete ") := plain_of_chars (by decide)
  have between : Plain (toString " order: need ") := plain_of_chars (by decide)
  have next : Plain (toString " bytes, have ") := plain_of_chars (by decide)
  exact plain_append (plain_append (plain_append (plain_append
    (plain_append before plain) between) (plain_nat _)) next) (plain_nat _)

theorem readAddress_raises : RaisesOnly Fault.Minor readAddress :=
  readByte_raises.bind fun _ => readByte_raises.bind fun _ _ =>
    RaisesOnlyAt.getBind (RaisesOnlyAt.pure _)

theorem modifyScreen_raises {Allowed : Fault → Prop} (f : ScreenBuffer → ScreenBuffer) :
    RaisesOnly Allowed (modifyScreen f) :=
  fun _ => RaisesOnlyAt.modify _

theorem mirrorPos_raises {Allowed : Fault → Prop} : RaisesOnly Allowed mirrorPos :=
  fun _ => RaisesOnlyAt.modify _

theorem insertData_raises (byte : UInt8) : RaisesOnly Fault.Minor (insertData byte) := by
  intro parser
  unfold insertData
  split
  · exact RaisesOnlyAt.pure ()
  · apply RaisesOnlyAt.getBind
    apply RaisesOnlyAt.ite
    · exact fun _ => RaisesOnlyAt.ite (fun _ => modifyScreen_raises _ _)
        fun _ => RaisesOnlyAt.throw (plain_of_chars (by decide))
    · refine fun _ => RaisesOnlyAt.throw ?_
      have before : Plain (toString "Position out of bounds: (") :=
        plain_of_chars (by decide)
      have between : Plain (toString ", ") := plain_of_chars (by decide)
      have behind : Plain (toString ")") := plain_of_chars (by decide)
      exact plain_append (plain_append (plain_append (plain_append before
        (plain_nat _)) between) (plain_nat _)) behind

theorem handleSba_raises : RaisesOnly Fault.Minor handleSba := by
  intro parser
  unfold handleSba
  apply RaisesOnlyAt.getBind
  apply RaisesOnlyAt.ite
  · refine fun _ => RaisesOnlyAt.throw ?_
    have before : Plain (toString "Incomplete SBA order: need 2 address bytes, have ") :=
      plain_of_chars (by decide)
    exact plain_append before (plain_nat _)
  · refine fun _ => (readAddress_raises parser).bind fun address after _ => ?_
    apply RaisesOnlyAt.getBind
    cases after.screen.targetOf address after.addressingMode with
    | none => exact RaisesOnlyAt.pure ()
    | some target => exact (modifyScreen_raises _).bind (fun _ => mirrorPos_raises) after

theorem handleSf_raises : RaisesOnly Fault.Minor handleSf := by
  refine (validateMinData_raises 1 (plain_of_chars (by decide))).bind fun _ => ?_
  refine (readByteSafe_raises (plain_of_chars (by decide))).bind fun attr parser => ?_
  apply RaisesOnlyAt.getBind
  refine (modifyScreen_raises _).bind (fun _ => ?_) parser
  refine (modifyScreen_raises _).bind fun _ => ?_
  refine RaisesOnly.bind (fun _ => RaisesOnlyAt.modify _) fun _ => ?_
  exact (modifyScreen_raises _).bind fun _ => mirrorPos_raises

theorem modifyFieldPairs_raises (target : Nat × Nat) (fuel : Nat) :
    RaisesOnly Fault.Minor (modifyFieldPairs target fuel) := by
  induction fuel with
  | zero => exact fun _ => RaisesOnlyAt.pure ()
  | succ fuel ih =>
      intro parser
      unfold modifyFieldPairs
      apply RaisesOnlyAt.getBind
      refine RaisesOnlyAt.ite (fun _ => RaisesOnlyAt.pure ()) fun _ => ?_
      refine readByte_raises.bind (fun attrType => ?_) parser
      refine readByte_raises.bind fun attrValue => ?_
      exact (modifyScreen_raises _).bind fun _ => ih

theorem handleMf_raises : RaisesOnly Fault.Minor handleMf :=
  (validateMinData_raises 2 (plain_of_chars (by decide))).bind fun _ _ =>
    RaisesOnlyAt.getBind (modifyFieldPairs_raises _ _ _)

theorem handleRa_raises : RaisesOnly Fault.Minor handleRa := by
  refine (validateMinData_raises 3 (plain_of_chars (by decide))).bind
    fun _ before => ?_
  apply RaisesOnlyAt.getBind
  refine readAddress_raises.bind (fun address => ?_) before
  refine (readByteSafe_raises (plain_of_chars (by decide))).bind fun char => ?_
  cases before.screen.targetOf address before.addressingMode with
  | none => exact fun _ => RaisesOnlyAt.pure ()
  | some target =>
      exact ((insertData_raises char).times _).bind fun _ => modifyScreen_raises _

theorem handleEua_raises : RaisesOnly Fault.Minor handleEua := by
  refine (validateMinData_raises 2 (plain_of_chars (by decide))).bind
    fun _ before => ?_
  apply RaisesOnlyAt.getBind
  refine readAddress_raises.bind (fun address => ?_) before
  cases before.screen.targetOf address before.addressingMode with
  | none => exact fun _ => RaisesOnlyAt.pure ()
  | some target => exact (modifyScreen_raises _).bind fun _ => modifyScreen_raises _

theorem handleGe_raises : RaisesOnly Fault.Minor handleGe :=
  (validateMinData_raises 1 (plain_of_chars (by decide))).bind fun _ =>
    readByte_raises.bind fun _ => insertData_raises _

/-- Without a printer there is nothing to write to. -/
theorem writeToPrinter_raises {data : List UInt8} {parser : DataStreamParser}
    (noPrinter : parser.printer = none) :
    RaisesOnlyAt Fault.Minor (writeToPrinter data) parser := by
  unfold writeToPrinter
  apply RaisesOnlyAt.getBind
  rw [noPrinter]
  exact RaisesOnlyAt.pure ()

theorem HandlerSteps.printer {before after : DataStreamParser}
    (steps : HandlerSteps before after) : after.printer = before.printer := by
  induction steps with
  | refl => rfl
  | tail _ last ih => cases last <;> exact ih

theorem handleScs_raises {parser : DataStreamParser}
    (noPrinter : parser.printer = none) :
    RaisesOnlyAt Fault.Minor handleScs parser := by
  unfold handleScs
  apply RaisesOnlyAt.getBind
  refine RaisesOnlyAt.ite
    (fun _ => RaisesOnlyAt.throw (plain_of_chars (by decide))) fun _ => ?_
  refine (readByte_raises parser).bind fun code after read => ?_
  have moved : HandlerSteps parser (finalState (readByte parser)) :=
    within_ordinary readByte_steps parser
  rw [read] at moved
  exact RaisesOnlyAt.ite
    (fun _ => writeToPrinter_raises ((HandlerSteps.printer moved).trans noPrinter))
    fun _ => RaisesOnlyAt.pure ()

theorem readSfePairs_raises (numPairs : Nat) (baseAttrSet : Bool) :
    RaisesOnly Fault.Minor (readSfePairs numPairs baseAttrSet) := by
  induction numPairs generalizing baseAttrSet with
  | zero => exact fun _ => RaisesOnlyAt.pure _
  | succ numPairs ih =>
      intro parser
      unfold readSfePairs
      apply RaisesOnlyAt.getBind
      refine RaisesOnlyAt.ite (fun _ => RaisesOnlyAt.pure _) fun _ => ?_
      refine (withMessage_raises (fun _ => plain_of_chars (by decide))
        readByte_raises).bind (fun attrType => ?_) parser
      refine (withMessage_raises (fun _ => plain_of_chars (by decide))
        readByte_raises).bind fun attrValue => ?_
      exact (modifyScreen_raises _).bind fun _ => ih _

theorem handleSfe_raises : RaisesOnly Fault.Minor handleSfe := by
  intro parser
  unfold handleSfe
  apply RaisesOnlyAt.getBind
  refine RaisesOnlyAt.ite (fun _ => RaisesOnlyAt.pure ()) fun _ => ?_
  refine (withMessage_raises (fun _ => plain_of_chars (by decide))
    readByte_raises).bind (fun length => ?_) parser
  refine (readSfePairs_raises _ _).bind fun baseAttrSet after => ?_
  exact RaisesOnlyAt.ite (fun _ => modifyScreen_raises _ _) fun _ => RaisesOnlyAt.pure ()

theorem handleSa_raises : RaisesOnly Fault.Minor handleSa := by
  intro parser
  unfold handleSa
  apply RaisesOnlyAt.getBind
  refine RaisesOnlyAt.ite
    (fun _ => RaisesOnlyAt.throw (plain_of_chars (by decide))) fun _ => ?_
  refine readByte_raises.bind (fun attrType => ?_) parser
  refine readByte_raises.bind fun attrValue after => ?_
  exact RaisesOnlyAt.getBind (modifyScreen_raises _ _)

theorem handleDataStreamCtlOrder_raises :
    RaisesOnly Fault.Minor handleDataStreamCtlOrder := by
  intro parser failure after raised
  rw [handleDataStreamCtlOrder_eq] at raised
  split at raised
  · cases raised
  · exact insertData_raises 0x40 parser failure after raised

theorem attempt_raises {Allowed : Fault → Prop} {m : ParserM α}
    (body : RaisesOnly Fault.Minor m) : RaisesOnly Allowed (attempt m) := by
  refine fun parser => ((body.bind fun value _ => RaisesOnlyAt.pure _) parser).tryCatch
    fun fault after minor _ => ?_
  cases fault with
  | parseError text => exact RaisesOnlyAt.pure _
  | other text => exact minor.elim

theorem swallow_raises {Allowed : Fault → Prop} (m : ParserM Unit) :
    RaisesOnly Allowed (swallow m) := by
  intro parser
  have anything : RaisesOnlyAt (fun _ => True) m parser := fun _ _ _ => trivial
  exact anything.tryCatch fun _ _ _ _ => RaisesOnlyAt.pure ()

theorem skipStructuredField_raises {Allowed : Fault → Prop} :
    RaisesOnly Allowed skipStructuredField :=
  fun _ => RaisesOnlyAt.modify _

theorem readStructuredFieldBody_raises {Allowed : Fault → Prop} (length : Nat) :
    RaisesOnly Allowed (readStructuredFieldBody length) := by
  refine (attempt_raises readByte_raises).bind fun result => ?_
  cases result with
  | none => exact fun _ => RaisesOnlyAt.pure ()
  | some sfType =>
      intro parser
      apply RaisesOnlyAt.getBind
      refine RaisesOnlyAt.bind ?_ fun _ after _ => swallow_raises _ after
      rintro failure after ⟨⟩

theorem readHeader_raises {Allowed : Fault → Prop} :
    RaisesOnly Allowed handleStructuredField.readHeader := by
  intro parser
  unfold handleStructuredField.readHeader
  apply RaisesOnlyAt.getBind
  refine RaisesOnlyAt.ite (fun _ => skipStructuredField_raises parser) fun _ => ?_
  refine (attempt_raises readByte_raises).bind (fun lengthHigh => ?_) parser
  cases lengthHigh with
  | none => exact skipStructuredField_raises
  | some lengthHigh =>
      refine (attempt_raises readByte_raises).bind fun lengthLow => ?_
      cases lengthLow with
      | none => exact skipStructuredField_raises
      | some lengthLow =>
          intro after
          apply RaisesOnlyAt.getBind
          exact RaisesOnlyAt.ite (fun _ => skipStructuredField_raises after)
            fun _ => RaisesOnlyAt.ite (fun _ => skipStructuredField_raises after)
              fun _ => readStructuredFieldBody_raises _ after

theorem handleStructuredField_raises {Allowed : Fault → Prop} :
    RaisesOnly Allowed handleStructuredField := by
  intro parser
  unfold handleStructuredField
  apply RaisesOnlyAt.getBind
  refine RaisesOnlyAt.ite (fun _ => ?_) fun _ => readHeader_raises parser
  refine (attempt_raises readByte_raises).bind (fun result => ?_) parser
  cases result with
  | none => exact fun _ => RaisesOnlyAt.pure ()
  | some byte => exact readHeader_raises

theorem orderHandlers_otherRaises {byte : UInt8} {handler : ParserM Unit}
    (found : orderHandlers byte = some handler) (other : byte ≠ 0x04) :
    RaisesOnly Fault.Minor handler := by
  unfold orderHandlers at found
  split at found <;> cases found
  · exact handleSba_raises
  · exact handleSf_raises
  · exact handleMf_raises
  · exact handleRa_raises
  · exact handleEua_raises
  · exact handleGe_raises
  · exact modifyScreen_raises _
  · exact modifyScreen_raises _
  · exact handleSfe_raises
  · exact handleSa_raises
  · exact handleStructuredField_raises
  · exact handleDataStreamCtlOrder_raises
  · exact absurd rfl other

theorem orderHandlers_raises {byte : UInt8} {handler : ParserM Unit}
    {parser : DataStreamParser} (found : orderHandlers byte = some handler)
    (noPrinter : parser.printer = none) :
    RaisesOnlyAt Fault.Minor handler parser := by
  by_cases printer : byte = 0x04
  · subst printer
    cases found
    exact handleScs_raises noPrinter
  · exact orderHandlers_otherRaises found printer parser

theorem processByte_raises {parser : DataStreamParser}
    (noPrinter : parser.printer = none) :
    RaisesOnlyAt Fault.Minor processByte parser := by
  refine (parserReadByte_raises parser).bind fun byte after read => ?_
  have moved : HandlerSteps parser (finalState (parserReadByte parser)) :=
    within_ordinary parserReadByte_steps parser
  rw [read] at moved
  cases found : orderHandlers byte with
  | some handler =>
      exact (orderHandlers_raises found ((HandlerSteps.printer moved).trans noPrinter)).bind
        fun _ last _ => mirrorPos_raises last
  | none =>
      refine RaisesOnlyAt.ite (fun _ => RaisesOnlyAt.pure ()) fun _ => ?_
      exact (insertData_raises byte).bind (fun _ => mirrorPos_raises) after

/-- Parse errors that are not fatal, and the exceptions of a printer. -/
def Unfatal : Fault → Prop
  | .parseError text => Plain text
  | .other _ => True

private theorem unfatal_of_minor (fault : Fault) (minor : fault.Minor) :
    Unfatal fault := by
  cases fault with
  | parseError text => exact minor
  | other text => trivial

theorem handleScs_unfatal : RaisesOnly Unfatal handleScs := by
  intro parser
  unfold handleScs
  apply RaisesOnlyAt.getBind
  refine RaisesOnlyAt.ite
    (fun _ => RaisesOnlyAt.throw (plain_of_chars (by decide))) fun _ => ?_
  refine ((readByte_raises parser).mono unfatal_of_minor).bind fun code after _ => ?_
  refine RaisesOnlyAt.ite (fun _ => ?_) fun _ => RaisesOnlyAt.pure ()
  unfold writeToPrinter
  apply RaisesOnlyAt.getBind
  cases after.printer with
  | none => exact RaisesOnlyAt.pure ()
  | some printer =>
      refine (RaisesOnlyAt.modify _).bind fun _ last _ => ?_
      cases printer.writeScsDataRaises [code] with
      | none => exact RaisesOnlyAt.pure ()
      | some message => exact RaisesOnlyAt.throw trivial

/-- Whatever the printer does, no order raises a fatal parse error. -/
theorem processByte_unfatal : RaisesOnly Unfatal processByte := by
  intro parser
  refine ((parserReadByte_raises parser).mono unfatal_of_minor).bind
    fun byte after read => ?_
  cases found : orderHandlers byte with
  | some handler =>
      have raises : RaisesOnlyAt Unfatal handler after := by
        by_cases printer : byte = 0x04
        · subst printer
          cases found
          exact handleScs_unfatal after
        · have other := orderHandlers_otherRaises found printer after
          exact other.mono unfatal_of_minor
      exact raises.bind fun _ last _ => mirrorPos_raises last
  | none =>
      refine RaisesOnlyAt.ite (fun _ => RaisesOnlyAt.pure ()) fun _ => ?_
      exact ((insertData_raises byte after).mono unfatal_of_minor).bind
        fun _ last _ => mirrorPos_raises last

theorem parseRound_returns {snapshot : Option ScreenSnapshot}
    {parser : DataStreamParser} (noPrinter : parser.printer = none) :
    RaisesOnlyAt (fun _ => False) (parseRound snapshot) parser := by
  intro failure after raised
  rw [parseRound_run] at raised
  split at raised
  · split at raised
    · cases raised
    · rename_i fault middle outcome
      have minor := processByte_raises noPrinter fault middle outcome
      cases fault with
      | other text => exact minor
      | parseError text =>
          rw [handleOrderError_run, not_fatal_of_plain minor] at raised
          simp only [Bool.false_eq_true, if_false] at raised
          split at raised <;> cases raised
  · cases raised

private theorem parseRound_printer {snapshot : Option ScreenSnapshot}
    {before after : DataStreamParser} (noPrinter : before.printer = none)
    (round : parseRound snapshot before = .ok none after) :
    after.printer = none := by
  have moved : HandlerSteps before (finalState (processByte before)) :=
    processByte_steps before
  have kept := (HandlerSteps.printer moved).trans noPrinter
  rw [parseRound_run] at round
  split at round
  · split at round
    · rename_i outcome
      rw [outcome] at kept
      cases round
      exact kept
    · rename_i outcome
      rw [outcome] at kept
      rw [handleOrderError_none round]
      exact kept
  · cases round

theorem parseLoop_returns {snapshot : Option ScreenSnapshot}
    {parser : DataStreamParser} (noPrinter : parser.printer = none) :
    RaisesOnlyAt (fun _ => False) (parseLoop snapshot) parser := by
  refine RaisesOnlyAt.getBind (RaisesOnlyAt.bind
    (RaisesOnlyAt.iterate parseRound_returns parseRound_printer _ noPrinter)
    fun result after _ => ?_)
  rintro failure last raised
  cases result with
  | none => cases raised
  | some left => cases left <;> cases raised

theorem parseRecord_raises {parser after : DataStreamParser} {fault : Fault}
    (noPrinter : parser.printer = none) (fresh : parser.parserPos = 0)
    (raised : parseRecord parser = .error fault after) :
    ∃ command, parser.data = [command] ∧ isEraseWriteCommand command = true := by
  match data : parser.data with
  | [] =>
      rw [parseRecord_empty data] at raised
      cases raised
  | firstByte :: rest =>
      cases write : isWriteCommand firstByte || isEraseWriteCommand firstByte with
      | false =>
          rw [parseRecord_plain write data fresh] at raised
          have start : (afterWcc firstByte 1 parser).printer = none := noPrinter
          have returns : RaisesOnlyAt (fun _ => False)
              (tryCatch (parseLoop none) (handleParseError none)) _ :=
            (parseLoop_returns start).tryCatch
              fun _ _ impossible _ => impossible.elim
          exact (returns _ _ raised).elim
      | true =>
          match rest with
          | [] =>
              rw [parseRecord_missingWcc write data fresh] at raised
              split at raised
              · cases raised
              · rename_i notWrite
                rw [Bool.eq_false_iff.mpr notWrite, Bool.false_or] at write
                exact ⟨firstByte, rfl, write⟩
          | wcc :: rest =>
              rw [parseRecord_write write data fresh] at raised
              have start : (startWrite wcc parser).printer = none := noPrinter
              have returns : RaisesOnlyAt (fun _ => False)
                  (tryCatch (parseLoop (some parser.screen.snapshot))
                    (handleParseError (some parser.screen.snapshot))) _ :=
                (parseLoop_returns start).tryCatch
                  fun _ _ impossible _ => impossible.elim
              exact (returns _ _ raised).elim

theorem parse_raises {data : List UInt8} {parser after : DataStreamParser}
    {fault : Fault} (noPrinter : parser.printer = none)
    (raised : parse data 0x00 parser = .error fault after) :
    ∃ command, data = [command] ∧ isEraseWriteCommand command = true := by
  rw [parse_tn3270] at raised
  cases outcome : parseRecord
      (prepare (decide (bulkThreshold < data.length)) data parser) with
  | ok exit last =>
      rw [outcome] at raised
      cases raised
  | error early last =>
      have start : (prepare (decide (bulkThreshold < data.length)) data
          parser).printer = none := noPrinter
      exact parseRecord_raises start rfl outcome

theorem parseLoop_raises (snapshot : Option ScreenSnapshot) :
    RaisesOnly (fun fault => ∃ text, fault = .other text) (parseLoop snapshot) := by
  have rounds : ∀ {state : DataStreamParser}, True →
      RaisesOnlyAt (fun fault => ∃ text, fault = .other text) (parseRound snapshot)
        state := by
    intro state _ failure after raised
    rw [parseRound_run] at raised
    split at raised
    · split at raised
      · cases raised
      · rename_i fault middle outcome
        have unfatal := processByte_unfatal state fault middle outcome
        cases fault with
        | other text =>
            cases raised
            exact ⟨text, rfl⟩
        | parseError text =>
            rw [handleOrderError_run, not_fatal_of_plain unfatal] at raised
            simp only [Bool.false_eq_true, if_false] at raised
            split at raised <;> cases raised
    · cases raised
  intro parser
  refine RaisesOnlyAt.getBind (RaisesOnlyAt.bind
    (RaisesOnlyAt.iterate rounds (fun _ _ => trivial) _ trivial) fun result after _ => ?_)
  rintro failure last raised
  cases result with
  | none => cases raised
  | some left => cases left <;> cases raised

/-- An erase command ended its record. -/
def incompleteWcc : Fault := .parseError "Incomplete WCC order"

/-- A printer's exception, as the parser passes it on. -/
def printerError (message : String) : Fault := .parseError s!"Parsing failed: {message}"

/-- What can leave a parse. -/
def Surfaces (printer : Option PrinterBuffer) (fault : Fault) : Prop :=
  fault = incompleteWcc ∨ printer.isSome = true ∧ ∃ message, fault = printerError message

/-- The outer handler behind the order loop. -/
theorem caughtLoop_surfaces {parser start : DataStreamParser}
    (same : start.printer = parser.printer) (snapshot : Option ScreenSnapshot) :
    RaisesOnlyAt (Surfaces parser.printer)
      (tryCatch (parseLoop snapshot) (handleParseError snapshot)) start := by
  refine (parseLoop_raises snapshot start).tryCatch ?_
  rintro fault after ⟨text, rfl⟩ raised other last ran
  cases ran
  right
  cases found : parser.printer with
  | some printer => exact ⟨rfl, text, rfl⟩
  | none => exact (parseLoop_returns (same.trans found) _ _ raised).elim

theorem parseRecord_surfaces {parser : DataStreamParser} (fresh : parser.parserPos = 0) :
    RaisesOnlyAt (Surfaces parser.printer) parseRecord parser := by
  intro fault after raised
  match data : parser.data with
  | [] =>
      rw [parseRecord_empty data] at raised
      cases raised
  | firstByte :: rest =>
      cases write : isWriteCommand firstByte || isEraseWriteCommand firstByte with
      | false =>
          rw [parseRecord_plain write data fresh] at raised
          have same : (afterWcc firstByte 1 parser).printer = parser.printer := rfl
          exact caughtLoop_surfaces same none fault after raised
      | true =>
          match rest with
          | [] =>
              rw [parseRecord_missingWcc write data fresh] at raised
              split at raised
              · cases raised
              · rw [handleParseError_run, if_pos (by decide)] at raised
                cases raised
                exact .inl rfl
          | wcc :: rest =>
              rw [parseRecord_write write data fresh] at raised
              have same : (startWrite wcc parser).printer = parser.printer := rfl
              exact caughtLoop_surfaces same _ fault after raised

theorem parse_surfaces (data : List UInt8) (dataType : UInt8) (parser : DataStreamParser) :
    RaisesOnlyAt (Surfaces parser.printer) (parse data dataType) parser := by
  intro fault after raised
  rcases parse_dispatch data dataType parser with ⟨last, ignored, -⟩ | tn3270 | nvt
  · rw [ignored] at raised
    cases raised
  · rw [tn3270, parse_tn3270] at raised
    have start : (prepare (decide (bulkThreshold < data.length)) data parser).parserPos = 0 :=
      rfl
    cases outcome : parseRecord
        (prepare (decide (bulkThreshold < data.length)) data parser) with
    | ok exit last =>
        rw [outcome] at raised
        cases raised
    | error early last =>
        rw [outcome] at raised
        have same : early = fault := by
          cases raised
          rfl
        exact same ▸ parseRecord_surfaces start early last outcome
  · rw [nvt, parse_nvt] at raised
    cases raised

/-- The parse raises nothing. -/
def Parses (data : List UInt8) (dataType : UInt8) (parser : DataStreamParser) : Prop :=
  ∀ fault after, parse data dataType parser ≠ .error fault after

theorem parse_eraseAlone {command : UInt8} (erase : isEraseWriteCommand command = true)
    (parser : DataStreamParser) :
    ∃ after, parse [command] 0x00 parser = .error incompleteWcc after := by
  have write : (isWriteCommand command || isEraseWriteCommand command) = true := by
    rw [erase, Bool.or_true]
  have other : isWriteCommand command = false := by
    unfold isEraseWriteCommand at erase
    unfold isWriteCommand
    simp only [decide_eq_true_eq, List.mem_cons, List.not_mem_nil, or_false] at erase
    rcases erase with rfl | rfl | rfl | rfl <;> rfl
  have record :=
    @parseRecord_missingWcc (prepare false [command] parser) command write rfl rfl
  rw [other, if_neg Bool.false_ne_true, handleParseError_run, if_pos (by decide)] at record
  have short : decide (bulkThreshold < [command].length) = false := rfl
  rw [parse_tn3270, short, record]
  exact ⟨_, rfl⟩

theorem parses_iff {data : List UInt8} {dataType : UInt8} {parser : DataStreamParser}
    (noPrinter : parser.printer = none) :
    Parses data dataType parser ↔
      ¬ (takesFor3270 dataType parser = true ∧
        ∃ command, data = [command] ∧ isEraseWriteCommand command = true) := by
  constructor
  · rintro parses ⟨taken, command, rfl, erase⟩
    obtain ⟨after, raised⟩ := parse_eraseAlone erase parser
    exact parses _ after ((parse_of_taken taken _).trans raised)
  · intro never fault after raised
    rcases parse_taken data dataType parser with ⟨-, last, ignored, -⟩ | ⟨taken, same⟩ | ⟨-, nvt⟩
    · rw [ignored] at raised
      cases raised
    · exact never ⟨taken, parse_raises noPrinter (same.symm.trans raised)⟩
    · rw [nvt, parse_nvt] at raised
      cases raised

end DataStreamParser

end Pure3270

import Pure3270.Protocol.ParserErrors

/-!
# The resilient parse

`_parse_resilient` is to go on behind the byte the parser has got to when an error is not
critical.  It looks for errors of another class than the parser's, so that it parses a
record once and lets through what the parser raises.
-/

namespace Pure3270

open Foundations

namespace DataStreamParser

/-- `_parse_resilient`, whose data type is 3270 data by default.  Its loop goes round after
a `ParseError` of the package's exceptions only, and the parser raises none of those. -/
def parseResilient (dataType : Option UInt8) (data : List UInt8) : ParserM Unit :=
  if data = [] then return ()
  else do
    let _ ← parse data (dataType.getD 0x00)
    return ()

/-- `replay_to_session`: a record that raises is logged and passed over. -/
def replayToSession (records : List (List UInt8)) (parser : DataStreamParser) :
    DataStreamParser :=
  records.foldl (fun reached record => finalState (parseResilient none record reached)) parser

/-- The parts of the parser that only its owner sets. -/
structure SameSetup (before after : DataStreamParser) : Prop where
  printer : after.printer = before.printer
  hasNegotiator : after.hasNegotiator = before.hasNegotiator
  hasIndFileHandler : after.hasIndFileHandler = before.hasIndFileHandler
  addressingMode : after.addressingMode = before.addressingMode

instance : IsPreorder DataStreamParser SameSetup where
  refl _ := ⟨rfl, rfl, rfl, rfl⟩
  trans _ _ _ first second :=
    { printer := second.printer.trans first.printer
      hasNegotiator := second.hasNegotiator.trans first.hasNegotiator
      hasIndFileHandler := second.hasIndFileHandler.trans first.hasIndFileHandler
      addressingMode := second.addressingMode.trans first.addressingMode }

theorem HandlerSteps.sameSetup {before after : DataStreamParser}
    (steps : HandlerSteps before after) : SameSetup before after := by
  induction steps with
  | refl => exact ⟨rfl, rfl, rfl, rfl⟩
  | tail _ last ih =>
      cases last <;> exact ⟨ih.printer, ih.hasNegotiator, ih.hasIndFileHandler, ih.addressingMode⟩

private theorem modify_sameSetup {f : DataStreamParser → DataStreamParser}
    (same : ∀ parser, SameSetup parser (f parser)) :
    Within SameSetup (modify f : ParserM Unit) :=
  fun parser => .modify (same parser)

private theorem modifyScreen_sameSetup (f : ScreenBuffer → ScreenBuffer) :
    Within SameSetup (modifyScreen f) :=
  modify_sameSetup fun _ => ⟨rfl, rfl, rfl, rfl⟩

private theorem callIf_sameSetup (condition : DataStreamParser → Bool)
    (made : CollaboratorCall) :
    Within SameSetup (do
      let parser ← get
      if condition parser then call made) :=
  fun _ => WithinAt.getBind
    (.ite (fun _ => .modify ⟨rfl, rfl, rfl, rfl⟩) fun _ => .pure ())

theorem restoreScreen_sameSetup (snapshot : Option ScreenSnapshot) (errMsg : String) :
    Within SameSetup (restoreScreen snapshot errMsg) := by
  cases snapshot with
  | none => exact fun _ => WithinAt.pure ()
  | some snapshot =>
      exact fun parser => .ite (fun _ => modifyScreen_sameSetup _ parser) fun _ => .pure ()

theorem handleOrderError_sameSetup (snapshot : Option ScreenSnapshot) (fault : Fault) :
    Within SameSetup (handleOrderError snapshot fault) := by
  have ends : Within SameSetup moveToEnd := modify_sameSetup fun _ => ⟨rfl, rfl, rfl, rfl⟩
  have skips : Within SameSetup skipOneByte := modify_sameSetup fun _ => ⟨rfl, rfl, rfl, rfl⟩
  intro parser
  cases fault with
  | other text => exact WithinAt.throw _
  | parseError errMsg =>
      have restores := restoreScreen_sameSetup snapshot errMsg
      unfold handleOrderError
      refine .ite (fun _ => ?_) fun _ => .ite (fun _ => ?_) fun _ => ?_
      · exact Within.bind restores (fun _ => Within.bind ends fun _ _ => .throw _) parser
      · exact Within.bind restores (fun _ => Within.bind ends fun _ _ => .pure _) parser
      · exact Within.bind skips (fun _ _ => .pure _) parser

theorem handleParseError_sameSetup (snapshot : Option ScreenSnapshot) (fault : Fault) :
    Within SameSetup (handleParseError snapshot fault) := by
  have ends : Within SameSetup moveToEnd := modify_sameSetup fun _ => ⟨rfl, rfl, rfl, rfl⟩
  have skips : Within SameSetup handleParseError.skipOneByteOuter := by
    refine modify_sameSetup fun parser => ?_
    split
    · exact ⟨rfl, rfl, rfl, rfl⟩
    · exact ⟨rfl, rfl, rfl, rfl⟩
  intro parser
  cases fault with
  | other text => exact WithinAt.throw _
  | parseError errMsg =>
      refine Within.bind (restoreScreen_sameSetup snapshot errMsg) (fun _ after => ?_) parser
      refine .ite (fun _ => ?_) fun _ => ?_
      · exact Within.bind ends (fun _ _ => .throw _) after
      · exact Within.bind skips (fun _ _ => .pure _) after

theorem parseLoop_sameSetup (snapshot : Option ScreenSnapshot) :
    Within SameSetup (parseLoop snapshot) := by
  have round : Within SameSetup (parseRound snapshot) := by
    refine fun parser => WithinAt.getBind (.ite (fun _ => .pure _) fun _ => ?_)
    refine Within.tryCatch ?_ (handleOrderError_sameSetup snapshot) parser
    exact Within.bind (fun state => HandlerSteps.sameSetup (processByte_steps state))
      fun _ _ => .pure _
  refine fun parser => WithinAt.getBind ?_
  refine Within.bind (Within.iterate round _) (fun result => ?_) parser
  cases result with
  | none => exact fun _ => WithinAt.pure _
  | some left =>
      cases left with
      | finished =>
          exact Within.bind (modify_sameSetup fun _ => ⟨rfl, rfl, rfl, rfl⟩)
            fun _ _ => .pure _
      | rolledBack => exact fun _ => WithinAt.pure _

theorem handleWrite_sameSetup : Within SameSetup (handleWrite true) := by
  refine Within.bind (modifyScreen_sameSetup _) fun _ => ?_
  refine Within.bind (modifyScreen_sameSetup _) fun _ parser => WithinAt.getBind ?_
  exact .ite (fun _ => modifyScreen_sameSetup _ parser) fun _ => .pure ()

theorem parseRecord_sameSetup : Within SameSetup parseRecord := by
  have readByte : Within SameSetup parserReadByte :=
    fun state => HandlerSteps.sameSetup (within_ordinary parserReadByte_steps state)
  have mirror : Within SameSetup mirrorPos := modify_sameSetup fun _ => ⟨rfl, rfl, rfl, rfl⟩
  have readsWcc : ∀ wcc, Within SameSetup (handleWccWithByte wcc) := by
    intro wcc
    refine Within.bind (modify_sameSetup fun _ => ⟨rfl, rfl, rfl, rfl⟩) fun _ parser => ?_
    refine .ite (fun _ => ?_) fun _ => modifyScreen_sameSetup _ parser
    exact Within.bind (modifyScreen_sameSetup _) (fun _ => modifyScreen_sameSetup _) parser
  refine fun parser => WithinAt.getBind (.ite (fun _ => .pure _) fun _ => ?_)
  refine Within.bind readByte (fun firstByte after => ?_) parser
  refine .ite (fun _ => ?_) fun _ => ?_
  · refine Within.tryCatch ?_ (handleParseError_sameSetup _) after
    refine Within.bind handleWrite_sameSetup fun _ state => WithinAt.getBind ?_
    refine .ite (fun _ => ?_) fun _ => .ite (fun _ => .pure _) fun _ => .throw _
    exact Within.bind readByte (fun wcc => Within.bind (readsWcc wcc) fun _ =>
      Within.bind mirror fun _ => parseLoop_sameSetup _) state
  · refine Within.tryCatch ?_ (handleParseError_sameSetup none) after
    exact Within.bind (readsWcc firstByte) fun _ => Within.bind mirror
      fun _ => parseLoop_sameSetup none

theorem parse_sameSetup (data : List UInt8) (dataType : UInt8) :
    Within SameSetup (parse data dataType) := by
  have ends : ∀ bulkMode, Within SameSetup (endBulkMode bulkMode) := by
    intro bulkMode parser
    exact .ite (fun _ => modifyScreen_sameSetup _ parser) fun _ => .pure ()
  have taken : ∀ bulkMode, Within SameSetup (parseTn3270 bulkMode) := by
    intro bulkMode
    refine Within.bind (modifyScreen_sameSetup _) fun _ => ?_
    refine Within.bind (modify_sameSetup fun _ => ⟨rfl, rfl, rfl, rfl⟩) fun _ => ?_
    refine Within.bind (modifyScreen_sameSetup _) fun _ => ?_
    have record : Within SameSetup (tryCatch parseRecord fun fault => do
        endBulkMode bulkMode
        throw fault) :=
      Within.tryCatch parseRecord_sameSetup fun fault =>
        Within.bind (ends bulkMode) fun _ _ => .throw fault
    have goesOn : Within SameSetup (do
        let exit ← tryCatch parseRecord fun fault => do
          endBulkMode bulkMode
          throw fault
        endBulkMode bulkMode
        return exit) :=
      Within.bind record fun exit => Within.bind (ends bulkMode) fun _ _ => .pure exit
    exact fun parser => .ite
      (fun _ => Within.bind (modifyScreen_sameSetup _) (fun _ => goesOn) parser)
      fun _ => goesOn parser
  have prints : Within SameSetup (swallow (writeToPrinter data)) :=
    Within.tryCatch
      (fun state => HandlerSteps.sameSetup (within_ordinary (writeToPrinter_steps data) state))
      fun _ _ => .pure ()
  refine Within.bind (modify_sameSetup fun _ => ⟨rfl, rfl, rfl, rfl⟩) fun _ parser =>
    WithinAt.getBind ?_
  have calls : ∀ made : CollaboratorCall, Within SameSetup (call made) :=
    fun made => modify_sameSetup fun _ => ⟨rfl, rfl, rfl, rfl⟩
  refine .ite (fun _ => ?_) fun _ => .ite (fun _ => .pure _) fun _ => .ite (fun _ => ?_) fun _ =>
    .ite (fun _ => ?_) fun _ => .ite (fun _ => ?_) fun _ => .ite (fun _ => .pure _) fun _ =>
    .ite (fun _ => ?_) fun _ => .ite (fun _ => .pure _) fun _ => .ite (fun _ => ?_) fun _ => ?_
  · have moves : Within SameSetup (modify fun parser : DataStreamParser =>
        { parser with pos := data.length } : ParserM Unit) :=
      modify_sameSetup fun _ => ⟨rfl, rfl, rfl, rfl⟩
    exact Within.bind prints (fun _ => Within.bind moves fun _ _ => .pure _) parser
  · exact .ite (fun _ => Within.bind (calls _) (fun _ _ => .pure _) parser) fun _ => .pure _
  · exact Within.bind (callIf_sameSetup _ _) (fun _ _ => .pure _) parser
  · exact Within.bind (callIf_sameSetup _ _) (fun _ _ => .pure _) parser
  · exact Within.bind (modifyScreen_sameSetup _) (fun _ _ => .pure _) parser
  · refine Within.bind ?_ (fun _ _ => .pure _) parser
    refine fun state => WithinAt.getBind ?_
    cases data with
    | nil => exact .pure ()
    | cons requestFlags rest => exact .ite (fun _ => calls _ state) fun _ => .pure ()
  · exact taken _ parser

theorem parseResilient_nil (dataType : Option UInt8) :
    parseResilient dataType [] = pure () := if_pos rfl

theorem parseResilient_error_iff {data : List UInt8} (some : data ≠ [])
    {dataType : Option UInt8} {parser after : DataStreamParser} {fault : Fault} :
    parseResilient dataType data parser = .error fault after ↔
      parse data (dataType.getD 0x00) parser = .error fault after := by
  unfold parseResilient
  rw [if_neg some]
  cases outcome : parse data (dataType.getD 0x00) parser with
  | ok exit last =>
      rw [run_bind_ok outcome]
      constructor
      · intro raised
        cases raised
      · intro raised
        cases raised
  | error early last =>
      rw [run_bind_error outcome]
      constructor
      · intro raised
        cases raised
        rfl
      · intro raised
        cases raised
        rfl

theorem finalState_parseResilient {data : List UInt8} (some : data ≠ [])
    (dataType : Option UInt8) (parser : DataStreamParser) :
    finalState (parseResilient dataType data parser) =
      finalState (parse data (dataType.getD 0x00) parser) := by
  unfold parseResilient
  rw [if_neg some]
  cases outcome : parse data (dataType.getD 0x00) parser with
  | ok exit last =>
      rw [run_bind_ok outcome]
      rfl
  | error early last =>
      rw [run_bind_error outcome]
      rfl

theorem parseResilient_surfaces (dataType : Option UInt8) (data : List UInt8)
    (parser : DataStreamParser) :
    RaisesOnlyAt (Surfaces parser.printer) (parseResilient dataType data) parser := by
  by_cases empty : data = []
  · rw [empty, parseResilient_nil]
    exact .pure ()
  · intro fault after raised
    exact parse_surfaces data _ parser fault after ((parseResilient_error_iff empty).mp raised)

theorem parseResilient_raises_iff {parser : DataStreamParser}
    (noPrinter : parser.printer = none) (data : List UInt8) :
    (∃ fault after, parseResilient none data parser = .error fault after) ↔
      ∃ command, data = [command] ∧ isEraseWriteCommand command = true := by
  constructor
  · rintro ⟨fault, after, raised⟩
    by_cases empty : data = []
    · rw [empty, parseResilient_nil] at raised
      cases raised
    · exact parse_raises noPrinter ((parseResilient_error_iff empty).mp raised)
  · rintro ⟨command, rfl, erase⟩
    obtain ⟨after, raised⟩ := parse_eraseAlone erase parser
    exact ⟨_, after, (parseResilient_error_iff (List.cons_ne_nil _ _)).mpr raised⟩

/-- The calls of the parser in a replay. -/
def replayedCalls (records : List (List UInt8)) : List (List UInt8 × UInt8) :=
  (records.filter (· ≠ [])).map fun record => (record, 0x00)

theorem replayToSession_eq_afterCalls (records : List (List UInt8))
    (parser : DataStreamParser) :
    replayToSession records parser = afterCalls parser (replayedCalls records) := by
  induction records generalizing parser with
  | nil => rfl
  | cons record records ih =>
      by_cases empty : record = []
      · have passed : replayToSession (record :: records) parser =
            replayToSession records parser := by
          unfold replayToSession
          rw [List.foldl_cons, empty, parseResilient_nil]
          rfl
        have filtered : replayedCalls (record :: records) = replayedCalls records := by
          unfold replayedCalls
          rw [List.filter_cons_of_neg (by simp [empty])]
        rw [passed, filtered]
        exact ih parser
      · have filtered : replayedCalls (record :: records) =
            (record, 0x00) :: replayedCalls records := by
          unfold replayedCalls
          rw [List.filter_cons_of_pos (by simp [empty])]
          rfl
        have parsed := finalState_parseResilient empty none parser
        rw [filtered]
        change replayToSession records (finalState (parseResilient none record parser)) = _
        rw [parsed]
        exact ih _

/-- What every parse keeps a replay keeps. -/
theorem afterCalls_within {R : DataStreamParser → DataStreamParser → Prop}
    [IsPreorder DataStreamParser R]
    (parses : ∀ data dataType, Within R (parse data dataType))
    (calls : List (List UInt8 × UInt8)) (parser : DataStreamParser) :
    R parser (afterCalls parser calls) := by
  induction calls generalizing parser with
  | nil => exact refl_of R parser
  | cons call calls ih => exact trans_of R (parses call.1 call.2 parser) (ih _)

end DataStreamParser

end Pure3270

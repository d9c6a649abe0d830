import Pure3270.Protocol.DataStreamParser
import Pure3270.Protocol.HandlerSteps

/-!
# The order loop

What one round of the loop does, and that the loop ends: in every round that
continues either the mirrored position moves forward, or it stays and the
reader moves.  An error at the end of the data can throw the reader back to
the mirrored position, so neither position alone is a measure.
-/

namespace Pure3270

open Foundations Relation

/-- How far a handler can move the two positions. -/
structure ReaderProgress (before after : DataStreamParser) : Prop where
  data : after.data = before.data
  forward : before.parserPos ≤ after.parserPos
  inside : before.parserPos ≤ before.data.length →
    after.parserPos ≤ after.data.length
  mirror : before.pos ≤ before.parserPos →
    before.pos ≤ after.pos ∧ after.pos ≤ after.parserPos

instance : IsPreorder DataStreamParser ReaderProgress where
  refl _ := ⟨rfl, Nat.le_refl _, id, fun below => ⟨Nat.le_refl _, below⟩⟩
  trans _ _ _ left right :=
    { data := right.data.trans left.data
      forward := left.forward.trans right.forward
      inside := fun within => right.inside (left.inside within)
      mirror := fun below =>
        ⟨(left.mirror below).1.trans (right.mirror (left.mirror below).2).1,
          (right.mirror (left.mirror below).2).2⟩ }

theorem HandlerStep.readerProgress {before after : DataStreamParser}
    (step : HandlerStep before after) : ReaderProgress before after := by
  cases step with
  | advance count available =>
      have bound : count ≤ before.data.length - before.parserPos := available
      exact ⟨rfl, Nat.le_add_right _ _, fun within => by simp only; omega,
        fun below => ⟨Nat.le_refl _, by simp only; omega⟩⟩
  | mirror =>
      exact ⟨rfl, Nat.le_refl _, id, fun below => ⟨below, Nat.le_refl _⟩⟩
  | screen step =>
      exact ⟨rfl, Nat.le_refl _, id, fun below => ⟨Nat.le_refl _, below⟩⟩
  | fieldStarted pos =>
      exact ⟨rfl, Nat.le_refl _, id, fun below => ⟨Nat.le_refl _, below⟩⟩
  | call made =>
      exact ⟨rfl, Nat.le_refl _, id, fun below => ⟨Nat.le_refl _, below⟩⟩

theorem HandlerSteps.readerProgress {before after : DataStreamParser}
    (steps : HandlerSteps before after) : ReaderProgress before after := by
  induction steps with
  | refl => exact refl_of ReaderProgress before
  | tail _ last ih => exact trans_of ReaderProgress ih last.readerProgress

namespace DataStreamParser

/-- What happens to a byte once the reader has taken it. -/
def dispatch (byte : UInt8) : ParserM Unit :=
  match orderHandlers byte with
  | some handler => do
      handler
      mirrorPos
  | none =>
      if byte = 0x00 then return
      else do
        insertData byte
        mirrorPos

theorem parserReadByte_run {parser : DataStreamParser} {byte : UInt8}
    (here : parser.data[parser.parserPos]? = some byte) :
    parserReadByte parser =
      .ok byte { parser with parserPos := parser.parserPos + 1 } := by
  unfold parserReadByte
  rw [run_get_bind, here]
  rfl

theorem readByte_run {parser : DataStreamParser} {byte : UInt8}
    (here : parser.data[parser.parserPos]? = some byte)
    (mirrored : parser.pos ≤ parser.parserPos) :
    readByte parser =
      .ok byte { parser with
        parserPos := parser.parserPos + 1
        pos := parser.parserPos + 1 } := by
  have inside := (List.getElem?_eq_some_iff.mp here).1
  have more : ¬ parser.data.length ≤ parser.pos := by omega
  unfold readByte
  rw [run_get_bind]
  simp only [here, if_neg more]
  rfl

theorem readByte_none {parser : DataStreamParser}
    (beyond : parser.data[parser.parserPos]? = none) :
    readByte parser = .error (.parseError "Overflow") parser := by
  unfold readByte
  rw [run_get_bind]
  simp only [beyond]
  split <;> rfl

/-- The pair loop of MF advances the mirror by two bytes a round, so rounds
beyond the length of the data are never used. -/
theorem modifyFieldPairs_fuel_irrelevant (target : Nat × Nat)
    {fuel extra : Nat} {parser : DataStreamParser}
    (mirrored : parser.pos ≤ parser.parserPos)
    (enough : parser.data.length ≤ parser.pos + fuel) :
    modifyFieldPairs target (fuel + extra) parser =
      modifyFieldPairs target fuel parser := by
  induction fuel generalizing parser with
  | zero =>
      cases extra with
      | zero => rfl
      | succ extra =>
          rw [Nat.zero_add]
          unfold modifyFieldPairs
          rw [run_get_bind, if_pos (by omega)]
  | succ fuel ih =>
      rw [Nat.add_right_comm]
      unfold modifyFieldPairs
      rw [run_get_bind, run_get_bind]
      by_cases done : parser.data.length ≤ parser.pos + 1
      · rw [if_pos done, if_pos done]
      · rw [if_neg done, if_neg done]
        cases first : parser.data[parser.parserPos]? with
        | none =>
            rw [run_bind_error (readByte_none first),
              run_bind_error (readByte_none first)]
        | some attrType =>
            rw [run_bind_ok (readByte_run first mirrored),
              run_bind_ok (readByte_run first mirrored)]
            generalize readOne : ({ parser with
              parserPos := parser.parserPos + 1
              pos := parser.parserPos + 1 } : DataStreamParser) = middle
            have mirroredOne : middle.pos ≤ middle.parserPos := by
              subst readOne
              exact Nat.le_refl _
            cases second : middle.data[middle.parserPos]? with
            | none =>
                rw [run_bind_error (readByte_none second),
                  run_bind_error (readByte_none second)]
            | some attrValue =>
                rw [run_bind_ok (readByte_run second mirroredOne),
                  run_bind_ok (readByte_run second mirroredOne)]
                subst readOne
                exact ih (Nat.le_refl _) (by simp only; omega)

theorem processByte_run {parser : DataStreamParser} {byte : UInt8}
    (here : parser.data[parser.parserPos]? = some byte) :
    processByte parser =
      dispatch byte { parser with parserPos := parser.parserPos + 1 } :=
  run_bind_ok (parserReadByte_run here)

theorem processByte_none {parser : DataStreamParser}
    (beyond : parser.data[parser.parserPos]? = none) :
    processByte parser =
      .error (.parseError "Unexpected end of data stream") parser := by
  have raised : parserReadByte parser =
      .error (.parseError "Unexpected end of data stream") parser := by
    unfold parserReadByte
    rw [run_get_bind, beyond]
    rfl
  exact run_bind_error raised

theorem dispatch_ordinary {byte : UInt8} (other : byte ≠ 0x1D) :
    Within OrdinarySteps (dispatch byte) := by
  unfold dispatch
  cases found : orderHandlers byte with
  | some handler =>
      exact Within.bind (orderHandlers_ordinary found other) fun _ => mirrorPos_steps
  | none =>
      intro parser
      exact WithinAt.ite (fun _ => WithinAt.pure ())
        (fun _ => Within.bind (insertData_steps byte)
          (fun _ => mirrorPos_steps) parser)

theorem dispatch_steps (byte : UInt8) : Within HandlerSteps (dispatch byte) := by
  by_cases field : byte = 0x1D
  · subst field
    exact Within.bind handleSf_steps fun _ => within_ordinary mirrorPos_steps
  · exact within_ordinary (dispatch_ordinary field)

/-- A byte that is handled leaves the mirror at the reader, unless it was a
null that only the reader passed. -/
theorem dispatch_ok {byte : UInt8} {parser after : DataStreamParser}
    (handled : dispatch byte parser = .ok () after) :
    after.pos = after.parserPos ∨ after = parser := by
  have mirrored : ∀ {m : ParserM Unit},
      (m >>= fun _ => mirrorPos) parser = .ok () after →
        after.pos = after.parserPos := by
    intro m ran
    cases outcome : m parser with
    | ok value middle =>
        rw [run_bind_ok outcome] at ran
        cases ran
        rfl
    | error failure middle =>
        rw [run_bind_error outcome] at ran
        cases ran
  unfold dispatch at handled
  cases found : orderHandlers byte with
  | some handler =>
      rw [found] at handled
      exact .inl (mirrored handled)
  | none =>
      rw [found] at handled
      by_cases null : byte = 0x00
      · simp only [null, if_true] at handled
        cases handled
        exact .inr rfl
      · simp only [null, if_false] at handled
        exact .inl (mirrored handled)

/-- The positions are ordered and inside the data. -/
def Positioned (parser : DataStreamParser) : Prop :=
  parser.pos ≤ parser.parserPos ∧ parser.parserPos ≤ parser.data.length

/-- The lexicographic measure of the mirror and the reader. -/
def loopMeasure (parser : DataStreamParser) : Nat :=
  (parser.data.length - parser.pos) * (parser.data.length + 1) +
    (parser.data.length - parser.parserPos)

theorem loopMeasure_lt_roundLimit (parser : DataStreamParser) :
    loopMeasure parser < roundLimit parser.data.length := by
  unfold loopMeasure roundLimit
  have scaled : (parser.data.length - parser.pos) * (parser.data.length + 1) ≤
      parser.data.length * (parser.data.length + 1) :=
    Nat.mul_le_mul_right _ (Nat.sub_le _ _)
  rw [Nat.add_mul, Nat.one_mul]
  omega

private theorem loopMeasure_lt_of_mirror {before after : DataStreamParser}
    (data : after.data = before.data) (forward : before.pos < after.pos)
    (inside : after.pos ≤ before.data.length) :
    loopMeasure after < loopMeasure before := by
  unfold loopMeasure
  rw [data]
  have fewer : before.data.length - after.pos + 1 ≤
      before.data.length - before.pos := by omega
  have scaled := Nat.mul_le_mul_right (before.data.length + 1) fewer
  rw [Nat.add_mul, Nat.one_mul] at scaled
  omega

private theorem loopMeasure_lt_of_reader {before after : DataStreamParser}
    (data : after.data = before.data) (same : after.pos = before.pos)
    (forward : before.parserPos < after.parserPos)
    (inside : after.parserPos ≤ before.data.length) :
    loopMeasure after < loopMeasure before := by
  unfold loopMeasure
  rw [data, same]
  omega

theorem processByte_progress {parser : DataStreamParser}
    (positioned : Positioned parser) (more : parser.hasMore = true) :
    (finalState (processByte parser)).data = parser.data ∧
      Positioned (finalState (processByte parser)) ∧
      parser.pos ≤ (finalState (processByte parser)).pos ∧
      parser.parserPos < (finalState (processByte parser)).parserPos := by
  have inside : parser.parserPos < parser.data.length := by
    simpa [hasMore] using more
  have here : parser.data[parser.parserPos]? =
      some parser.data[parser.parserPos] := List.getElem?_eq_getElem inside
  have progress := HandlerSteps.readerProgress
    (dispatch_steps parser.data[parser.parserPos]
      { parser with parserPos := parser.parserPos + 1 })
  have mirror := progress.mirror
    (Nat.le_succ_of_le positioned.1 : parser.pos ≤ parser.parserPos + 1)
  rw [processByte_run here]
  exact ⟨progress.data, ⟨mirror.2, progress.inside inside⟩, mirror.1,
    progress.forward⟩

/-- The parser after `restoreScreen`. -/
def restored (snapshot : Option ScreenSnapshot) (errMsg : String)
    (parser : DataStreamParser) : DataStreamParser :=
  match snapshot with
  | none => parser
  | some snapshot =>
      if occursIn "Incomplete" errMsg then
        { parser with screen := parser.screen.restore snapshot }
      else parser

/-- The parser with both positions at the end of the data. -/
def ended (parser : DataStreamParser) : DataStreamParser :=
  { parser with parserPos := parser.data.length, pos := parser.data.length }

/-- The parser after one skipped byte. -/
def skipped (parser : DataStreamParser) : DataStreamParser :=
  let next :=
    if parser.parserPos < parser.data.length then parser.parserPos + 1
    else min (parser.pos + 1) parser.data.length
  { parser with parserPos := next, pos := next }

theorem restoreScreen_run (snapshot : Option ScreenSnapshot) (errMsg : String)
    (parser : DataStreamParser) :
    restoreScreen snapshot errMsg parser =
      .ok () (restored snapshot errMsg parser) := by
  cases snapshot with
  | none => rfl
  | some snapshot =>
      unfold restoreScreen restored
      by_cases incomplete : occursIn "Incomplete" errMsg = true
      · simp only [incomplete, if_true]
        rfl
      · simp only [incomplete]
        rfl

/-- The three classes of errors in the loop. -/
theorem handleOrderError_run (snapshot : Option ScreenSnapshot) (errMsg : String)
    (parser : DataStreamParser) :
    handleOrderError snapshot (.parseError errMsg) parser =
      if isFatalError errMsg then
        .error (.parseError errMsg) (ended (restored snapshot errMsg parser))
      else if isRollbackOnlyError errMsg then
        .ok (some .rolledBack) (ended (restored snapshot errMsg parser))
      else .ok none (skipped parser) := by
  have unfolded : handleOrderError snapshot (.parseError errMsg) parser =
      (if isFatalError errMsg then
        restoreScreen snapshot errMsg >>= fun _ => do
          moveToEnd
          throw (.parseError errMsg)
      else if isRollbackOnlyError errMsg then
        restoreScreen snapshot errMsg >>= fun _ => do
          moveToEnd
          return some .rolledBack
      else do
        skipOneByte
        return none : ParserM (Option LoopExit)) parser := rfl
  rw [unfolded]
  by_cases fatal : isFatalError errMsg = true
  · rw [if_pos fatal, if_pos fatal, run_bind_ok (restoreScreen_run _ _ _)]
    rfl
  · rw [if_neg fatal, if_neg fatal]
    by_cases rollback : isRollbackOnlyError errMsg = true
    · rw [if_pos rollback, if_pos rollback, run_bind_ok (restoreScreen_run _ _ _)]
      rfl
    · rw [if_neg rollback, if_neg rollback]
      rfl

theorem handleParseError_run (snapshot : Option ScreenSnapshot)
    (errorMsg : String) (parser : DataStreamParser) :
    handleParseError snapshot (.parseError errorMsg) parser =
      if isCriticalError errorMsg then
        .error (.parseError errorMsg) (ended (restored snapshot errorMsg parser))
      else
        .ok .recovered
          (finalState (handleParseError.skipOneByteOuter
            (restored snapshot errorMsg parser))) := by
  have unfolded : handleParseError snapshot (.parseError errorMsg) parser =
      (restoreScreen snapshot errorMsg >>= fun _ =>
        if isCriticalError errorMsg then do
          moveToEnd
          throw (.parseError errorMsg)
        else do
          handleParseError.skipOneByteOuter
          return .recovered : ParserM ParseExit) parser := rfl
  rw [unfolded, run_bind_ok (restoreScreen_run _ _ _)]
  by_cases critical : isCriticalError errorMsg = true
  · rw [if_pos critical, if_pos critical]
    rfl
  · rw [if_neg critical, if_neg critical]
    rfl

theorem handleOrderError_none {snapshot : Option ScreenSnapshot} {fault : Fault}
    {parser after : DataStreamParser}
    (skip : handleOrderError snapshot fault parser = .ok none after) :
    after = skipped parser := by
  cases fault with
  | other text => cases skip
  | parseError errMsg =>
      rw [handleOrderError_run] at skip
      split at skip
      · cases skip
      · split at skip
        · cases skip
        · cases skip
          rfl

theorem parseRound_run (snapshot : Option ScreenSnapshot)
    (parser : DataStreamParser) :
    parseRound snapshot parser =
      if parser.hasMore = true then
        match processByte parser with
        | .ok _ after => .ok none after
        | .error fault after => handleOrderError snapshot fault after
      else .ok (some .finished) parser := by
  unfold parseRound
  rw [run_get_bind]
  cases more : parser.hasMore with
  | false => rfl
  | true =>
      simp only [Bool.not_true, Bool.false_eq_true, if_false, if_true]
      cases outcome : processByte parser with
      | ok value after =>
          have ran : (do
              processByte
              return none : ParserM (Option LoopExit)) parser = .ok none after :=
            run_bind_ok outcome
          exact run_tryCatch_ok ran
      | error fault after =>
          have ran : (do
              processByte
              return none : ParserM (Option LoopExit)) parser = .error fault after :=
            run_bind_error outcome
          exact run_tryCatch_error ran

/-- A handled byte moves the mirror or, for a null, the reader. -/
private theorem loopMeasure_lt_of_ok {before after : DataStreamParser}
    (positioned : Positioned before) (more : before.hasMore = true)
    (handled : processByte before = .ok () after) :
    Positioned after ∧ loopMeasure after < loopMeasure before := by
  have inside : before.parserPos < before.data.length := by
    simpa [hasMore] using more
  have progress := processByte_progress positioned more
  rw [handled] at progress
  obtain ⟨data, kept, mirror, forward⟩ := progress
  simp only [finalState_ok] at data kept mirror forward
  refine ⟨kept, ?_⟩
  rw [processByte_run (List.getElem?_eq_getElem inside)] at handled
  have below := positioned.1
  have bound := kept.2
  rcases dispatch_ok handled with mirrored | rfl
  · rw [data] at bound
    exact loopMeasure_lt_of_mirror data (by omega) (by omega)
  · exact loopMeasure_lt_of_reader rfl rfl (Nat.lt_succ_self _) inside

private theorem loopMeasure_lt_of_skip {before middle after : DataStreamParser}
    {fault : Fault} (positioned : Positioned before)
    (more : before.hasMore = true)
    (raised : processByte before = .error fault middle)
    (skip : after = skipped middle) :
    Positioned after ∧ loopMeasure after < loopMeasure before := by
  have inside : before.parserPos < before.data.length := by
    simpa [hasMore] using more
  have progress := processByte_progress positioned more
  rw [raised] at progress
  obtain ⟨data, kept, mirror, forward⟩ := progress
  simp only [finalState_error] at data kept mirror forward
  have below := positioned.1
  have bound := kept.2
  rw [data] at bound
  subst skip
  unfold skipped
  by_cases room : middle.parserPos < middle.data.length
  · simp only [room, if_true]
    rw [data] at room
    exact ⟨⟨Nat.le_refl _, by simp only [data]; omega⟩,
      loopMeasure_lt_of_mirror data (by simp only; omega) (by simp only; omega)⟩
  · simp only [room, if_false]
    refine ⟨⟨Nat.le_refl _, Nat.min_le_right _ _⟩,
      loopMeasure_lt_of_mirror data ?_ ?_⟩
    · simp only [data]
      omega
    · simp only [data]
      omega

theorem parseRound_progress (snapshot : Option ScreenSnapshot) :
    Progress (parseRound snapshot) Positioned loopMeasure := by
  have step : ∀ {before after}, Positioned before →
      parseRound snapshot before = .ok none after →
        Positioned after ∧ loopMeasure after < loopMeasure before := by
    intro before after positioned round
    rw [parseRound_run] at round
    split at round
    · rename_i more
      split at round
      · rename_i outcome
        cases round
        exact loopMeasure_lt_of_ok positioned more outcome
      · rename_i outcome
        exact loopMeasure_lt_of_skip positioned more outcome
          (handleOrderError_none round)
    · cases round
  exact ⟨fun positioned round => (step positioned round).1,
    fun positioned round => (step positioned round).2⟩

theorem parseLoop_run (snapshot : Option ScreenSnapshot)
    (parser : DataStreamParser) :
    parseLoop snapshot parser =
      match iterate (parseRound snapshot) (roundLimit parser.data.length) parser with
      | .ok none after => .ok .outOfFuel after
      | .ok (some .rolledBack) after => .ok .rolledBack after
      | .ok (some .finished) after =>
          .ok .finished { after with pos := max after.pos after.data.length }
      | .error fault after => .error fault after := by
  unfold parseLoop
  rw [run_get_bind]
  cases outcome : iterate (parseRound snapshot) (roundLimit parser.data.length)
      parser with
  | ok result after =>
      rw [run_bind_ok outcome]
      cases result with
      | none => rfl
      | some left => cases left <;> rfl
  | error fault after => exact run_bind_error outcome

/-- The loop leaves for a reason, never because its rounds are used up. -/
theorem parseLoop_ne_outOfFuel {snapshot : Option ScreenSnapshot}
    {parser : DataStreamParser} (positioned : Positioned parser)
    (after : DataStreamParser) :
    parseLoop snapshot parser ≠ .ok .outOfFuel after := by
  have never := iterate_ne_none (parseRound_progress snapshot) positioned
    (loopMeasure_lt_roundLimit parser)
  rw [parseLoop_run]
  split
  · rename_i outcome
    exact absurd outcome (never _)
  all_goals simp

end DataStreamParser

namespace ScreenBuffer

/-- The screen a write command leaves. -/
def erased (data : List UInt8) (screen : ScreenBuffer) : ScreenBuffer :=
  if data ≠ [] && data.all (· = 0x40) then
    (screen.clear.setPosition 0 0).fillSpaces
  else screen.clear.setPosition 0 0

/-- The effect of a write control character on the screen. -/
def applyWcc (wcc : UInt8) (screen : ScreenBuffer) : ScreenBuffer :=
  (if wcc &&& 0x40 ≠ 0 then screen.setKeyboardLock false
    else screen).setPosition 0 0

end ScreenBuffer

namespace DataStreamParser

/-- The parser at the start of the order loop. -/
def afterWcc (wcc : UInt8) (read : Nat) (parser : DataStreamParser) :
    DataStreamParser :=
  { parser with
    screen := parser.screen.applyWcc wcc
    wcc := some wcc
    parserPos := read
    pos := read }

theorem handleWrite_run (parser : DataStreamParser) :
    handleWrite true parser =
      .ok () { parser with screen := parser.screen.erased parser.data } := by
  unfold handleWrite ScreenBuffer.erased
  by_cases blank : (parser.data ≠ [] && parser.data.all (· = 0x40)) = true
  · simp only [if_true, Bool.true_and, blank]
    show (if (parser.data ≠ [] && parser.data.all (· = 0x40)) = true then _
      else _ : ParserM Unit) _ = _
    rw [if_pos blank]
    rfl
  · simp only [if_true, Bool.true_and, blank]
    show (if (parser.data ≠ [] && parser.data.all (· = 0x40)) = true then _
      else _ : ParserM Unit) _ = _
    rw [if_neg blank]
    rfl

theorem handleWccWithByte_run (wcc : UInt8) (parser : DataStreamParser) :
    handleWccWithByte wcc parser =
      .ok () { parser with
        screen := parser.screen.applyWcc wcc
        wcc := some wcc } := by
  unfold handleWccWithByte ScreenBuffer.applyWcc
  by_cases unlock : wcc &&& 0x40 ≠ 0
  · simp only [if_pos unlock]
    rfl
  · simp only [if_neg unlock]
    rfl

/-- The screen after a write command and its control character. -/
def startWrite (wcc : UInt8) (parser : DataStreamParser) : DataStreamParser :=
  afterWcc wcc 2 { parser with screen := parser.screen.erased parser.data }

theorem parseRecord_write {parser : DataStreamParser} {command wcc : UInt8}
    {rest : List UInt8} (write : isWriteCommand command || isEraseWriteCommand command)
    (data : parser.data = command :: wcc :: rest) (fresh : parser.parserPos = 0) :
    parseRecord parser =
      tryCatch (parseLoop (some parser.screen.snapshot))
        (handleParseError (some parser.screen.snapshot))
        (startWrite wcc parser) := by
  have more : parser.hasMore = true := by simp [hasMore, data, fresh]
  have first : parserReadByte parser =
      .ok command { parser with parserPos := 1 } := by
    rw [parserReadByte_run (by rw [data, fresh]; rfl), fresh]
  unfold parseRecord
  rw [run_get_bind]
  simp only [more, Bool.not_true, Bool.false_eq_true, if_false]
  rw [run_bind_ok first, if_pos write]
  apply run_tryCatch_congr
  unfold parseWrite
  rw [run_bind_ok (handleWrite_run _), run_get_bind]
  have second : ({ parser with
      parserPos := 1
      screen := parser.screen.erased parser.data } : DataStreamParser).hasMore = true := by
    simp [hasMore, data]
  rw [if_pos second, run_bind_ok (parserReadByte_run (by simp only [data]; rfl)),
    run_bind_ok (handleWccWithByte_run _ _)]
  rfl

theorem parseRecord_missingWcc {parser : DataStreamParser} {command : UInt8}
    (write : isWriteCommand command || isEraseWriteCommand command)
    (data : parser.data = [command]) (fresh : parser.parserPos = 0) :
    parseRecord parser =
      if isWriteCommand command then
        .ok .missingWcc { parser with
          screen := parser.screen.erased parser.data
          parserPos := 1 }
      else
        handleParseError (some parser.screen.snapshot)
          (.parseError "Incomplete WCC order")
          { parser with
            screen := parser.screen.erased parser.data
            parserPos := 1 } := by
  have more : parser.hasMore = true := by simp [hasMore, data, fresh]
  have first : parserReadByte parser =
      .ok command { parser with parserPos := 1 } := by
    rw [parserReadByte_run (by rw [data, fresh]; rfl), fresh]
  have ended : ({ parser with
      parserPos := 1
      screen := parser.screen.erased parser.data } : DataStreamParser).hasMore = false := by
    simp [hasMore, data]
  have body : parseWrite command parser.screen.snapshot { parser with parserPos := 1 } =
      if isWriteCommand command then
        .ok .missingWcc { parser with
          screen := parser.screen.erased parser.data
          parserPos := 1 }
      else .error (.parseError "Incomplete WCC order")
        { parser with
          screen := parser.screen.erased parser.data
          parserPos := 1 } := by
    unfold parseWrite
    rw [run_bind_ok (handleWrite_run _), run_get_bind]
    simp only [ended, Bool.false_eq_true, if_false]
    split <;> rfl
  unfold parseRecord
  rw [run_get_bind]
  simp only [more, Bool.not_true, Bool.false_eq_true, if_false]
  rw [run_bind_ok first, if_pos write]
  split at body
  · rw [run_tryCatch_ok body]
    simp [*]
  · rw [run_tryCatch_error body]
    simp [*]

theorem parseRecord_plain {parser : DataStreamParser} {wcc : UInt8}
    {rest : List UInt8}
    (plain : (isWriteCommand wcc || isEraseWriteCommand wcc) = false)
    (data : parser.data = wcc :: rest) (fresh : parser.parserPos = 0) :
    parseRecord parser =
      tryCatch (parseLoop none) (handleParseError none)
        (afterWcc wcc 1 parser) := by
  have more : parser.hasMore = true := by simp [hasMore, data, fresh]
  have first : parserReadByte parser = .ok wcc { parser with parserPos := 1 } := by
    rw [parserReadByte_run (by rw [data, fresh]; rfl), fresh]
  unfold parseRecord
  rw [run_get_bind]
  simp only [more, Bool.not_true, Bool.false_eq_true, if_false]
  rw [run_bind_ok first]
  simp only [plain, Bool.false_eq_true, if_false]
  apply run_tryCatch_congr
  rw [run_bind_ok (handleWccWithByte_run _ _)]
  rfl

theorem parseRecord_empty {parser : DataStreamParser} (data : parser.data = []) :
    parseRecord parser = .ok .empty parser := by
  unfold parseRecord
  rw [run_get_bind]
  simp [hasMore, data]
  rfl

/-- The screen when a 3270 record begins. -/
def prepareScreen (bulkMode : Bool) (screen : ScreenBuffer) : ScreenBuffer :=
  let home := (screen.setAsciiMode false).setPosition 0 0
  if bulkMode then home.beginBulkUpdate else home

/-- The parser when a 3270 record begins. -/
def prepare (bulkMode : Bool) (data : List UInt8) (parser : DataStreamParser) :
    DataStreamParser :=
  { parser with
    screen := prepareScreen bulkMode parser.screen
    wcc := none
    aid := none
    data
    parserPos := 0
    pos := 0 }

/-- The `finally` clause. -/
def resume (bulkMode : Bool) (parser : DataStreamParser) : DataStreamParser :=
  if bulkMode then { parser with screen := parser.screen.endBulkUpdate } else parser

/-- Change the state of an outcome. -/
def mapState (f : σ → σ) : EStateM.Result ε σ α → EStateM.Result ε σ α
  | .ok value state => .ok value (f state)
  | .error failure state => .error failure (f state)

@[simp] theorem finalState_mapState (f : σ → σ) (result : EStateM.Result ε σ α) :
    finalState (mapState f result) = f (finalState result) := by
  cases result <;> rfl

theorem parseTn3270_run (bulkMode : Bool) (data : List UInt8)
    (parser : DataStreamParser) :
    parseTn3270 bulkMode { parser with data, parserPos := 0, pos := 0 } =
      mapState (resume bulkMode) (parseRecord (prepare bulkMode data parser)) := by
  have started : parseTn3270 bulkMode
        { parser with data, parserPos := 0, pos := 0 } =
      (tryCatch parseRecord (fun fault => do
          endBulkMode bulkMode
          throw fault) >>= fun exit => do
        endBulkMode bulkMode
        return exit) (prepare bulkMode data parser) := by
    cases bulkMode <;> rfl
  rw [started]
  cases outcome : parseRecord (prepare bulkMode data parser) with
  | ok exit after =>
      rw [run_bind_ok (run_tryCatch_ok outcome)]
      cases bulkMode <;> rfl
  | error fault after =>
      have raised : tryCatch parseRecord (fun fault => do
          endBulkMode bulkMode
          throw fault) (prepare bulkMode data parser) =
            .error fault (resume bulkMode after) := by
        rw [run_tryCatch_error outcome]
        cases bulkMode <;> rfl
      exact run_bind_error raised

theorem parse_tn3270 (data : List UInt8) (parser : DataStreamParser) :
    parse data 0x00 parser =
      mapState (resume (decide (bulkThreshold < data.length)))
        (parseRecord (prepare (decide (bulkThreshold < data.length)) data parser)) :=
  parseTn3270_run _ data parser

theorem parse_nvt (data : List UInt8) (parser : DataStreamParser) :
    parse data 0x05 parser =
      .ok .ignored { parser with
        screen := parser.screen.handleNvtData data
        data
        parserPos := 0
        pos := 0 } := rfl

end DataStreamParser

end Pure3270

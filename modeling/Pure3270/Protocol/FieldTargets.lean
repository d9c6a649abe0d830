import Pure3270.Protocol.LastFieldStart
import Pure3270.Protocol.OrderSequences

/-!
# What SA and MF apply to

SA and MF apply to the field being built: the field started last since the
screen was erased, or else the cell of the cursor.  The parser goes by the start
it remembers, which an SFE does not set and which neither an erase nor a
rollback takes back.
-/

namespace Pure3270

open Foundations

/-- The orders that start a field: SF, and SFE with a base attribute. -/
inductive StartOrder where
  | sf
  | sfe
  deriving DecidableEq, Repr

structure FieldStart where
  pos : Nat
  order : StartOrder
  deriving DecidableEq, Repr

/-- A parser, and the field started last since its screen was erased. -/
structure Watched where
  parser : DataStreamParser
  recent : Option FieldStart

namespace DataStreamParser

/-- The byte at the reader starts a field. -/
def startsField (parser : DataStreamParser) : Bool :=
  parser.roundChanges.any fun
    | .setAttribute _ => true
    | _ => false

/-- The byte at the reader is an SA or an MF. -/
def handlesPairs (parser : DataStreamParser) : Bool :=
  parser.data[parser.parserPos]? = some 0x28 ||
    parser.data[parser.parserPos]? = some 0x2C

/-- The attribute pairs of the SA or MF at the reader: SA has one, and MF takes
what is left of the record. -/
def orderPairs (parser : DataStreamParser) : List (UInt8 × UInt8) :=
  match parser.data.drop parser.parserPos with
  | [] => []
  | byte :: operands => takePairs (if byte = 0x28 then 1 else operands.length) operands

end DataStreamParser

open DataStreamParser

namespace Watched

/-- Where SA and MF are to record their attributes. -/
def place (watched : Watched) : Nat × Nat :=
  match watched.recent with
  | none => watched.parser.screen.getPosition
  | some start =>
      (start.pos / watched.parser.screen.cols, start.pos % watched.parser.screen.cols)

/-- The byte at the reader, when it is an SA or an MF, records its attributes at
that place. -/
def OnTarget (watched : Watched) : Prop :=
  handlesPairs watched.parser = true →
    (finalState (processByte watched.parser)).screen =
      watched.parser.screen.changes ((orderPairs watched.parser).map fun pair =>
        .setExtended pair.1 pair.2 (some watched.place))

/-- What the parser remembers is a field start of its screen. -/
def Known (watched : Watched) : Prop :=
  ∀ pos, watched.parser.lastFieldStartPos = some pos →
    pos ∈ watched.parser.screen.fieldStarts

/-- The field started last once the byte at the reader has been handled. -/
def next (watched : Watched) : Option FieldStart :=
  if startsField watched.parser then
    some ⟨watched.parser.screen.cursorAddress,
      if startsSf watched.parser then .sf else .sfe⟩
  else watched.recent

/-- The states that the rounds of a loop begin in. -/
def roundStates (snapshot : Option ScreenSnapshot) : Nat → Watched → List Watched
  | 0, _ => []
  | fuel + 1, watched =>
      watched ::
        match parseRound snapshot watched.parser with
        | .ok none after => roundStates snapshot fuel ⟨after, watched.next⟩
        | _ => []

/-- The field started last once the loop is over. -/
def loopRecent (snapshot : Option ScreenSnapshot) : Nat → Watched → Option FieldStart
  | 0, watched => watched.recent
  | fuel + 1, watched =>
      match parseRound snapshot watched.parser with
      | .ok none after => loopRecent snapshot fuel ⟨after, watched.next⟩
      | _ => watched.next

/-- How a record begins, and its body; a write command alone has neither. -/
def headed : List UInt8 → Option (Heading × List UInt8)
  | [] => none
  | first :: rest =>
      if isWriteCommand first || isEraseWriteCommand first then
        match rest with
        | [] => none
        | wcc :: body => some (.write first wcc, body)
      else some (.plain first, rest)

/-- A record erases the screen.  An erase write without a write control character
is refused. -/
def erases : List UInt8 → Bool
  | [] => false
  | command :: rest => isWriteCommand command || isEraseWriteCommand command && rest ≠ []

/-- The start of the loop of a record. -/
def loopStart (heading : Heading) (body : List UInt8) (watched : Watched) : Watched where
  parser := heading.start body watched.parser
  recent :=
    match heading with
    | .write _ _ => none
    | .plain _ => watched.recent

/-- The states that the rounds of a record begin in. -/
def rounds (data : List UInt8) (watched : Watched) : List Watched :=
  match headed data with
  | none => []
  | some (heading, body) =>
      roundStates (heading.snapshot body watched.parser) (roundLimit data.length)
        (watched.loopStart heading body)

/-- The field started last once a record is over.  A rollback takes back the
erase and what has been started after it. -/
def recentAfter (data : List UInt8) (watched : Watched) : Option FieldStart :=
  match headed data with
  | none => if erases data then none else watched.recent
  | some (heading, body) =>
      if erases data ∧ Aborted (DataStreamParser.parse data 0x00 watched.parser) then
        watched.recent
      else
        loopRecent (heading.snapshot body watched.parser) (roundLimit data.length)
          (watched.loopStart heading body)

/-- The states that the rounds of a call begin in. -/
def roundsOf (call : List UInt8 × UInt8) (watched : Watched) : List Watched :=
  if takesFor3270 call.2 watched.parser then watched.rounds call.1 else []

/-- Parse the data of a call. -/
def parse (call : List UInt8 × UInt8) (watched : Watched) : Watched where
  parser := finalState (DataStreamParser.parse call.1 call.2 watched.parser)
  recent :=
    if takesFor3270 call.2 watched.parser then watched.recentAfter call.1
    else watched.recent

/-- A parser at its creation. -/
def start (screen : ScreenBuffer) (printer : Option PrinterBuffer)
    (hasNegotiator : Bool) (addressingMode : AddressingMode) : Watched where
  parser := DataStreamParser.init screen printer hasNegotiator addressingMode
  recent := none

/-- Whenever an SA or MF is handled it is on target, and what is remembered is a
field start of the screen, in every round and after every call. -/
def Tracks (calls : List (List UInt8 × UInt8)) (watched : Watched) : Prop :=
  Along parse (fun call watched => ∀ round ∈ watched.roundsOf call,
      round.OnTarget ∧ round.Known) calls watched ∧
    Always parse Known calls watched

/-- What keeps the remembered start right through a call: it erases the screen
only while nothing is remembered; a record that is rolled back has handled no SF;
and no SA or MF comes while the field started last was started by an SFE. -/
structure CallMeets (call : List UInt8 × UInt8) (watched : Watched) : Prop where
  erase : takesFor3270 call.2 watched.parser = true → erases call.1 = true →
    watched.parser.lastFieldStartPos = none
  rollback : erases call.1 = true →
    Aborted (DataStreamParser.parse call.1 call.2 watched.parser) →
      ∀ round ∈ watched.roundsOf call, startsSf round.parser = false
  target : ∀ round ∈ watched.roundsOf call, handlesPairs round.parser = true →
    round.recent.map FieldStart.order ≠ some .sfe

/-- What the parser remembers goes with the fields that SF has started. -/
structure Follows (watched : Watched) : Prop where
  valid : watched.parser.screen.Valid
  known : watched.Known
  unstarted : watched.recent = none → watched.parser.lastFieldStartPos = none
  started : ∀ pos, watched.recent = some ⟨pos, .sf⟩ →
    watched.parser.lastFieldStartPos = some pos

theorem Follows.place_eq {watched : Watched} (follows : watched.Follows)
    (notSfe : watched.recent.map FieldStart.order ≠ some .sfe) :
    watched.parser.resolveFieldStartPosition = watched.place := by
  unfold resolveFieldStartPosition place
  cases recent : watched.recent with
  | none => rw [follows.unstarted recent]
  | some start =>
      obtain ⟨pos, order⟩ := start
      cases order with
      | sf => rw [follows.started pos recent]
      | sfe =>
          rw [recent] at notSfe
          exact absurd rfl notSfe

theorem takePairs_congr {first second : Nat} {bytes : List UInt8}
    (left : bytes.length ≤ first) (right : bytes.length ≤ second) :
    takePairs first bytes = takePairs second bytes := by
  induction first generalizing second bytes with
  | zero =>
      obtain rfl : bytes = [] := List.length_eq_zero_iff.mp (Nat.le_zero.mp left)
      cases second <;> rfl
  | succ first ih =>
      match bytes, second with
      | [], second => cases second <;> rfl
      | [_], second => cases second <;> rfl
      | _ :: _ :: rest, second + 1 =>
          simp only [List.length_cons] at left right
          rw [takePairs, takePairs, @ih second rest (by omega) (by omega)]

/-- SA and MF make the changes of their pairs at the start that is remembered. -/
theorem roundChanges_pairs {parser : DataStreamParser}
    (handles : handlesPairs parser = true) :
    parser.roundChanges = (orderPairs parser).map fun pair =>
      .setExtended pair.1 pair.2 (some parser.resolveFieldStartPosition) := by
  have length : (parser.data.drop parser.parserPos).length ≤ parser.data.length := by
    rw [List.length_drop]
    exact Nat.sub_le _ _
  unfold handlesPairs at handles
  rw [← List.head?_drop] at handles
  unfold roundChanges orderPairs
  generalize parser.data.drop parser.parserPos = bytes at handles length ⊢
  cases bytes with
  | nil => rfl
  | cons byte operands =>
      simp only [List.head?_cons, Option.some_inj, Bool.or_eq_true,
        decide_eq_true_eq] at handles
      simp only [List.length_cons] at length
      rcases handles with rfl | rfl
      · match operands with
        | [] => rfl
        | [_] => rfl
        | _ :: _ :: _ => rfl
      · simp only [if_true]
        rw [if_neg (by decide : ¬ (0x2C : UInt8) = 0x28)]
        split
        · rename_i short
          match operands with
          | [] => rfl
          | [_] => rfl
          | _ :: _ :: _ =>
              simp only [List.length_cons] at short
              omega
        · rw [takePairs_congr (Nat.le_of_succ_le length) (Nat.le_refl _)]

theorem Follows.onTarget {watched : Watched} (follows : watched.Follows)
    (mirrored : watched.parser.pos ≤ watched.parser.parserPos)
    (notSfe : handlesPairs watched.parser = true →
      watched.recent.map FieldStart.order ≠ some .sfe) : watched.OnTarget := by
  intro handles
  rw [processByte_changes follows.valid mirrored, roundChanges_pairs handles,
    follows.place_eq (notSfe handles)]

theorem roundChanges_sf {parser : DataStreamParser} (starts : startsSf parser = true) :
    ∃ attr, parser.roundChanges =
      [.setAttribute attr,
        .setPosition parser.screen.cursorRow (parser.screen.cursorCol + 1)] := by
  unfold startsSf at starts
  rw [Bool.and_eq_true, decide_eq_true_eq, decide_eq_true_eq] at starts
  obtain ⟨here, operand⟩ := starts
  have split : parser.data.drop parser.parserPos = 0x1D ::
      parser.data[parser.parserPos + 1] :: parser.data.drop (parser.parserPos + 1 + 1) := by
    obtain ⟨inside, byte⟩ := List.getElem?_eq_some_iff.mp here
    rw [List.drop_eq_getElem_cons inside, byte, List.drop_eq_getElem_cons operand]
  unfold roundChanges
  rw [split]
  exact ⟨_, rfl⟩

theorem startsField_of_startsSf {parser : DataStreamParser}
    (starts : startsSf parser = true) : startsField parser = true := by
  obtain ⟨attr, changes⟩ := roundChanges_sf starts
  unfold startsField
  rw [changes]
  rfl

/-- One round carries the invariant on, unless it is rolled back. -/
theorem Follows.round {snapshot : Option ScreenSnapshot} {watched : Watched}
    (follows : watched.Follows)
    (mirrored : watched.parser.pos ≤ watched.parser.parserPos)
    (kept : snapshot = none ∨ KeptChanges (parseRound snapshot watched.parser)) :
    Follows ⟨finalState (parseRound snapshot watched.parser), watched.next⟩ := by
  have screen := parseRound_changes follows.valid mirrored kept
  have last := @parseRound_last snapshot watched.parser mirrored
  have grows : ∀ pos, pos ∈ watched.parser.screen.fieldStarts →
      pos ∈ (watched.parser.screen.changes watched.parser.roundChanges).fieldStarts :=
    fun pos member => (ScreenBuffer.mem_fieldStarts_changes follows.valid pos).mpr
      (.inl member)
  cases starts : startsSf watched.parser with
  | true =>
      have field := startsField_of_startsSf starts
      have remembered : nextLast watched.parser =
          some watched.parser.screen.cursorAddress := if_pos starts
      have recent : watched.next = some ⟨watched.parser.screen.cursorAddress, .sf⟩ := by
        unfold next
        rw [if_pos field, if_pos starts]
      refine ⟨?_, ?_, ?_, ?_⟩
      · simp only [screen]
        exact follows.valid.changes _
      · intro pos same
        obtain ⟨attr, changes⟩ := roundChanges_sf starts
        rw [last, remembered] at same
        obtain rfl := Option.some_inj.mp same
        simp only [screen]
        refine (ScreenBuffer.mem_fieldStarts_changes follows.valid _).mpr (.inr ?_)
        rw [changes]
        exact List.mem_cons_self
      · intro none
        rw [recent] at none
        cases none
      · intro pos same
        rw [recent] at same
        cases same
        exact last.trans remembered
  | false =>
      have remembered : nextLast watched.parser = watched.parser.lastFieldStartPos :=
        nextLast_of_other starts
      refine ⟨?_, ?_, ?_, ?_⟩
      · simp only [screen]
        exact follows.valid.changes _
      · intro pos same
        rw [last, remembered] at same
        simp only [screen]
        exact grows pos (follows.known pos same)
      · intro none
        unfold next at none
        split at none
        · cases none
        · exact (last.trans remembered).trans (follows.unstarted none)
      · intro pos same
        unfold next at same
        split at same
        · rw [starts] at same
          cases same
        · exact (last.trans remembered).trans (follows.started pos same)

theorem Follows.roundStates {snapshot : Option ScreenSnapshot} {fuel : Nat}
    {watched : Watched} (follows : watched.Follows)
    (positioned : Positioned watched.parser) :
    ∀ round ∈ watched.roundStates snapshot fuel,
      round.Follows ∧ Positioned round.parser := by
  induction fuel generalizing watched with
  | zero => exact fun round member => absurd member List.not_mem_nil
  | succ fuel ih =>
      intro round member
      rw [Watched.roundStates] at member
      rcases List.mem_cons.mp member with rfl | later
      · exact ⟨follows, positioned⟩
      · cases outcome : parseRound snapshot watched.parser with
        | error fault after =>
            rw [outcome] at later
            cases later
        | ok result after =>
            rw [outcome] at later
            cases result with
            | some exit => cases later
            | none =>
                have next := @Follows.round snapshot watched follows positioned.1
                rw [outcome] at next
                exact ih (next (.inr trivial))
                  ((parseRound_progress snapshot).keeps positioned outcome) round later

/-- A loop that is not rolled back carries the invariant on. -/
theorem Follows.loop {snapshot : Option ScreenSnapshot} {fuel : Nat}
    {watched : Watched} (follows : watched.Follows)
    (positioned : Positioned watched.parser)
    (kept : snapshot = none ∨
      KeptChanges (iterate (parseRound snapshot) fuel watched.parser)) :
    Follows ⟨finalState (iterate (parseRound snapshot) fuel watched.parser),
      watched.loopRecent snapshot fuel⟩ := by
  induction fuel generalizing watched with
  | zero => exact follows
  | succ fuel ih =>
      have first := @Follows.round snapshot watched follows positioned.1
      rw [iterate_succ] at kept ⊢
      rw [loopRecent]
      cases outcome : parseRound snapshot watched.parser with
      | error fault after =>
          rw [outcome] at first kept
          exact first kept
      | ok result after =>
          rw [outcome] at first kept
          cases result with
          | some exit => exact first kept
          | none =>
              exact ih (first (.inr trivial))
                ((parseRound_progress snapshot).keeps positioned outcome) kept

/-- A loop without SF leaves alone what is remembered, even if it is rolled
back. -/
theorem loop_last {snapshot : Option ScreenSnapshot} {fuel : Nat} {watched : Watched}
    (positioned : Positioned watched.parser)
    (without : ∀ round ∈ watched.roundStates snapshot fuel,
      startsSf round.parser = false) :
    (finalState (iterate (parseRound snapshot) fuel watched.parser)).lastFieldStartPos =
      watched.parser.lastFieldStartPos := by
  induction fuel generalizing watched with
  | zero => rfl
  | succ fuel ih =>
      rw [roundStates] at without
      have first := (@parseRound_last snapshot watched.parser positioned.1).trans
        (nextLast_of_other (without watched List.mem_cons_self))
      rw [iterate_succ]
      cases outcome : parseRound snapshot watched.parser with
      | error fault after =>
          rw [outcome] at first
          exact first
      | ok result after =>
          rw [outcome] at first without
          cases result with
          | some exit => exact first
          | none =>
              have later := @ih ⟨after, watched.next⟩
                ((parseRound_progress snapshot).keeps positioned outcome)
                fun round member => without round (List.mem_cons_of_mem _ member)
              exact later.trans first

theorem headed_some {data body : List UInt8} {heading : Heading}
    (found : headed data = some (heading, body)) :
    heading.WellFormed ∧ heading.encode ++ body = data := by
  cases data with
  | nil => cases found
  | cons first rest =>
      simp only [headed] at found
      split at found
      · rename_i write
        cases rest with
        | nil => cases found
        | cons wcc body =>
            cases found
            exact ⟨write, rfl⟩
      · rename_i plain
        cases found
        exact ⟨Bool.eq_false_iff.mpr plain, rfl⟩

theorem headed_none {data : List UInt8} (alone : headed data = none) :
    data = [] ∨ ∃ command, data = [command] ∧
      (isWriteCommand command || isEraseWriteCommand command) = true := by
  cases data with
  | nil => exact .inl rfl
  | cons first rest =>
      simp only [headed] at alone
      split at alone
      · rename_i write
        cases rest with
        | nil => exact .inr ⟨first, rfl, write⟩
        | cons wcc body => cases alone
      · cases alone

theorem erases_write {command wcc : UInt8} {body : List UInt8}
    (write : (isWriteCommand command || isEraseWriteCommand command) = true) :
    erases (command :: wcc :: body) = true := by
  simpa [erases] using write

theorem erases_plain {wcc : UInt8} {body : List UInt8}
    (plain : (isWriteCommand wcc || isEraseWriteCommand wcc) = false) :
    erases (wcc :: body) = false := by
  rw [Bool.or_eq_false_iff] at plain
  simp [erases, plain.1, plain.2]

theorem parse_alone {command : UInt8} (parser : DataStreamParser)
    (write : (isWriteCommand command || isEraseWriteCommand command) = true) :
    (finalState (DataStreamParser.parse [command] 0x00 parser)).lastFieldStartPos =
        parser.lastFieldStartPos ∧
      (Aborted (DataStreamParser.parse [command] 0x00 parser) ↔
        erases [command] = false) := by
  have record :=
    @parseRecord_missingWcc (prepare false [command] parser) command write rfl rfl
  have whole : DataStreamParser.parse [command] 0x00 parser =
      mapState (resume false) (parseRecord (prepare false [command] parser)) :=
    parse_tn3270 [command] parser
  have alone : erases [command] = isWriteCommand command := by simp [erases]
  rw [whole, record, alone]
  cases command : isWriteCommand command with
  | true =>
      simp only [if_true]
      exact ⟨rfl, iff_of_false (fun aborted => by cases aborted) (by decide)⟩
  | false =>
      simp only [Bool.false_eq_true, if_false]
      refine ⟨?_, iff_of_true ?_ trivial⟩
      · rw [finalState_mapState]
        exact handleParseError_last _ _ _
      · rw [handleParseError_run, if_pos (by decide)]
        exact .missingWcc _

/-- The parser when the loop of a record is over. -/
def loopEnd (heading : Heading) (body : List UInt8) (parser : DataStreamParser) :
    DataStreamParser :=
  finalState (iterate (parseRound (heading.snapshot body parser))
    (roundLimit (heading.encode ++ body).length) (heading.start body parser))

theorem resume_last (bulkMode : Bool) (parser : DataStreamParser) :
    (resume bulkMode parser).lastFieldStartPos = parser.lastFieldStartPos := by
  cases bulkMode <;> rfl

theorem parse_loopEnd {heading : Heading} (formed : heading.WellFormed)
    (body : List UInt8) (parser : DataStreamParser) :
    (finalState (DataStreamParser.parse (heading.encode ++ body) 0x00
        parser)).lastFieldStartPos = (loopEnd heading body parser).lastFieldStartPos ∧
      (finalState (DataStreamParser.parse (heading.encode ++ body) 0x00
        parser)).screen.fieldStarts = (loopEnd heading body parser).screen.fieldStarts := by
  have length : (heading.start body parser).data.length =
      (heading.encode ++ body).length := by
    cases heading <;> rfl
  obtain ⟨pos, settled⟩ :=
    loop_settles (heading.snapshot body parser) (heading.start body parser)
  rw [length] at settled
  have record := heading.parseRecord_eq formed body parser
  unfold Heading.prepared at record
  rw [parse_tn3270, finalState_mapState, record, settled, resume_last, resume_screen,
    resumeScreen_fieldStarts]
  exact ⟨rfl, rfl⟩

/-- Unless it is aborted, the loop of a record takes nothing back. -/
theorem loop_kept {heading : Heading} {body : List UInt8} {parser : DataStreamParser}
    (formed : heading.WellFormed)
    (kept : ¬ Aborted (DataStreamParser.parse (heading.encode ++ body) 0x00 parser)) :
    KeptChanges (iterate (parseRound (heading.snapshot body parser))
      (roundLimit (heading.encode ++ body).length) (heading.start body parser)) := by
  have length : (heading.start body parser).data.length =
      (heading.encode ++ body).length := by
    cases heading <;> rfl
  have record := heading.parseRecord_eq formed body parser
  unfold Heading.prepared at record
  rw [← length]
  apply keptChanges_of_not_aborted
  intro aborted
  refine kept ?_
  rw [parse_tn3270, record]
  exact aborted_mapState aborted

theorem Follows.loopStart {watched : Watched} (follows : watched.Follows)
    (heading : Heading) (body : List UInt8)
    (erase : erases (heading.encode ++ body) = true →
      watched.parser.lastFieldStartPos = none)
    (formed : heading.WellFormed) : (watched.loopStart heading body).Follows := by
  have valid := (heading.before_start follows.valid body).valid
  cases heading with
  | write command wcc =>
      have nothing := erase (erases_write formed)
      have last : (watched.loopStart (.write command wcc) body).parser.lastFieldStartPos =
          none := nothing
      refine ⟨valid, ?_, fun _ => last, fun pos same => ?_⟩
      · intro pos same
        rw [last] at same
        cases same
      · cases same
  | plain wcc =>
      refine ⟨valid, ?_, follows.unstarted, follows.started⟩
      intro pos same
      have starts : ((watched.loopStart (.plain wcc) body).parser).screen.fieldStarts =
          watched.parser.screen.fieldStarts := by
        show (ScreenBuffer.applyWcc wcc (prepareScreen _ _)).fieldStarts = _
        unfold ScreenBuffer.applyWcc prepareScreen
        split <;> split <;> rfl
      rw [starts]
      exact follows.known pos same

/-- What keeps the invariant through a parse that starts no field: what the parser
remembers and the field starts of its screen stay. -/
theorem Follows.still {watched : Watched} (follows : watched.Follows)
    {after : DataStreamParser} (valid : after.screen.Valid)
    (last : after.lastFieldStartPos = watched.parser.lastFieldStartPos)
    (starts : after.screen.fieldStarts = watched.parser.screen.fieldStarts) :
    Follows ⟨after, watched.recent⟩ := by
  refine ⟨valid, ?_, fun none => last.trans (follows.unstarted none),
    fun pos same => last.trans (follows.started pos same)⟩
  intro pos same
  simp only [starts]
  exact follows.known pos (last.symm.trans same)

theorem rounds_headed {data body : List UInt8} {heading : Heading}
    (found : headed data = some (heading, body)) (watched : Watched) :
    watched.rounds data =
      (watched.loopStart heading body).roundStates
        (heading.snapshot body watched.parser) (roundLimit data.length) := by
  unfold rounds
  rw [found]

theorem Follows.rounds {watched : Watched} (follows : watched.Follows)
    {data : List UInt8}
    (erase : erases data = true → watched.parser.lastFieldStartPos = none) :
    ∀ round ∈ watched.rounds data, round.Follows ∧ Positioned round.parser := by
  cases found : headed data with
  | none =>
      intro round member
      unfold Watched.rounds at member
      rw [found] at member
      cases member
  | some head =>
      obtain ⟨heading, body⟩ := head
      obtain ⟨formed, rfl⟩ := headed_some found
      rw [rounds_headed found]
      exact (follows.loopStart heading body erase formed).roundStates
        (heading.before_start follows.valid body).positioned

theorem Follows.record {watched : Watched} (follows : watched.Follows)
    {data : List UInt8}
    (erase : erases data = true → watched.parser.lastFieldStartPos = none)
    (rollback : erases data = true →
      Aborted (DataStreamParser.parse data 0x00 watched.parser) →
        ∀ round ∈ watched.rounds data, startsSf round.parser = false) :
    Follows ⟨finalState (DataStreamParser.parse data 0x00 watched.parser),
      watched.recentAfter data⟩ := by
  have valid := (parse_valid follows.valid data 0x00).2.1
  unfold recentAfter
  cases found : headed data with
  | none =>
      rcases headed_none found with rfl | ⟨command, rfl, write⟩
      · have empty : DataStreamParser.parse [] 0x00 watched.parser =
            mapState (resume false) (.ok .empty (prepare false [] watched.parser)) := by
          rw [← parseRecord_empty (rfl : (prepare false [] watched.parser).data = [])]
          exact parse_tn3270 [] watched.parser
        exact follows.still valid (by rw [empty]; rfl) (by rw [empty]; rfl)
      · obtain ⟨last, refused⟩ := parse_alone watched.parser write
        by_cases aborted : Aborted (DataStreamParser.parse [command] 0x00 watched.parser)
        · simp only [refused.mp aborted, Bool.false_eq_true, if_false]
          exact follows.still valid last
            (parse_aborted follows.valid write aborted).fieldStarts
        · have erased : erases [command] = true := by
            simpa using fun kept => aborted (refused.mpr kept)
          have nothing := last.trans (erase erased)
          simp only [erased, if_true]
          refine ⟨valid, ?_, fun _ => nothing, fun pos same => ?_⟩
          · intro pos same
            rw [nothing] at same
            cases same
          · cases same
  | some head =>
      obtain ⟨heading, body⟩ := head
      obtain ⟨formed, rfl⟩ := headed_some found
      obtain ⟨last, starts⟩ := parse_loopEnd formed body watched.parser
      have before := heading.before_start follows.valid body
      by_cases back : erases (heading.encode ++ body) = true ∧
          Aborted (DataStreamParser.parse (heading.encode ++ body) 0x00 watched.parser)
      · obtain ⟨erased, aborted⟩ := back
        have without := rollback erased aborted
        rw [rounds_headed found] at without
        have kept := loop_last before.positioned without
        simp only [erased, aborted, and_self, if_true]
        cases heading with
        | plain wcc =>
            have plain : erases (wcc :: body) = true := erased
            rw [erases_plain formed] at plain
            cases plain
        | write command wcc =>
            exact follows.still valid (last.trans kept)
              (parse_aborted follows.valid formed aborted).fieldStarts
      · simp only [back, if_false]
        have settles : heading.snapshot body watched.parser = none ∨
            KeptChanges (iterate (parseRound (heading.snapshot body watched.parser))
              (roundLimit (heading.encode ++ body).length)
              (heading.start body watched.parser)) := by
          cases heading with
          | plain wcc => exact .inl rfl
          | write command wcc =>
              exact .inr (loop_kept formed fun aborted =>
                back ⟨erases_write formed, aborted⟩)
        have looped := (follows.loopStart heading body erase formed).loop
          before.positioned settles
        refine ⟨valid, ?_, fun none => last.trans (looped.unstarted none),
          fun pos same => last.trans (looped.started pos same)⟩
        intro pos same
        simp only [starts]
        exact looped.known pos (last.symm.trans same)

theorem Follows.parse {watched : Watched} (follows : watched.Follows)
    {call : List UInt8 × UInt8} (meets : CallMeets call watched) :
    (∀ round ∈ watched.roundsOf call, round.OnTarget ∧ round.Known) ∧
      (watched.parse call).Follows := by
  obtain ⟨erase, rollback, target⟩ := meets
  cases taken : takesFor3270 call.2 watched.parser with
  | false =>
      obtain ⟨last, starts⟩ := parse_untaken taken call.1
      have valid := (parse_valid follows.valid call.1 call.2).2.1
      have none : watched.roundsOf call = [] := by
        unfold roundsOf
        rw [taken]
        rfl
      refine ⟨?_, ?_⟩
      · rw [none]
        exact fun round member => absurd member List.not_mem_nil
      · unfold Watched.parse
        rw [taken]
        exact follows.still valid last starts
  | true =>
      have same := parse_of_taken taken call.1
      have all : watched.roundsOf call = watched.rounds call.1 := if_pos taken
      rw [all] at rollback target ⊢
      rw [same] at rollback
      refine ⟨fun round member => ?_, ?_⟩
      · obtain ⟨here, positioned⟩ := follows.rounds (erase taken) round member
        exact ⟨here.onTarget positioned.1 (target round member), here.known⟩
      · unfold Watched.parse
        simp only [taken, if_true, same]
        exact follows.record (erase taken) rollback

/-- In every run whose calls all meet the condition, SA and MF are on target, and
what is remembered is a field start of the screen. -/
theorem tracks_of_meets {screen : ScreenBuffer} (valid : screen.Valid)
    (printer : Option PrinterBuffer) (hasNegotiator : Bool)
    (addressingMode : AddressingMode) (calls : List (List UInt8 × UInt8))
    (along : Along parse CallMeets calls
      (start screen printer hasNegotiator addressingMode)) :
    Tracks calls (start screen printer hasNegotiator addressingMode) := by
  have fresh : (start screen printer hasNegotiator addressingMode).Follows :=
    ⟨valid, fun _ same => (by cases same), fun _ => rfl, fun _ same => (by cases same)⟩
  unfold Tracks
  generalize start screen printer hasNegotiator addressingMode = watched at along fresh ⊢
  induction calls generalizing watched with
  | nil => exact ⟨trivial, fresh.known⟩
  | cons call calls ih =>
      obtain ⟨rounds, next⟩ := fresh.parse along.1
      obtain ⟨later, known⟩ := ih _ along.2 next
      exact ⟨⟨rounds, later⟩, fresh.known, known⟩

/-- A parser on the small screen. -/
def small : Watched :=
  start (smallParser 0 0).screen none false .mode12Bit

/-- A field and its colour, and its highlighting in a later record. -/
def colouredField : List (List UInt8 × UInt8) :=
  [([0x05, 0xC3, 0x1D, 0x60, 0x28, 0x42, 0xF2], 0x00), ([0xC3, 0x28, 0x41, 0xF4], 0x00)]

theorem tracks_colouredField : Tracks colouredField small := by
  refine tracks_of_meets (smallParser_valid 0 0) none false .mode12Bit colouredField
    ⟨⟨fun _ _ => rfl, ?_, ?_⟩, ⟨?_, ?_, ?_⟩, trivial⟩
  · exact fun _ aborted => absurd aborted (by decide +kernel)
  · decide +kernel
  · exact fun _ erased => absurd erased (by decide)
  · exact fun erased => absurd erased (by decide)
  · decide +kernel

/-- A letter and a field, and then an SA on the erased screen. -/
def colouredLetter : List (List UInt8 × UInt8) :=
  [([0x05, 0xC3, 0xC1, 0x1D, 0x60], 0x00), ([0x05, 0xC3, 0x28, 0x42, 0xF2], 0x00)]

/-- The SA goes to the place of the field that has been erased. -/
theorem not_tracks_colouredLetter :
    ¬ ∀ (screen : ScreenBuffer), screen.Valid → ∀ printer hasNegotiator addressingMode calls,
      Tracks calls (start screen printer hasNegotiator addressingMode) := by
  intro claimed
  have tracks : Tracks colouredLetter small :=
    claimed _ (smallParser_valid 0 0) none false .mode12Bit colouredLetter
  obtain ⟨⟨_, second, _⟩, _⟩ := tracks
  have first : ∀ watched, loopStart (.write 0x05 0xC3) [0x28, 0x42, 0xF2] watched ∈
      roundsOf ([0x05, 0xC3, 0x28, 0x42, 0xF2], 0x00) watched :=
    fun watched => List.mem_cons_self
  have onTarget := (second _ (first _)).1 (by decide +kernel)
  have coloured := congrArg (fun screen => (screen.extendedAttributes (0, 1)).isSome) onTarget
  exact absurd coloured (by decide +kernel)

end Watched

end Pure3270

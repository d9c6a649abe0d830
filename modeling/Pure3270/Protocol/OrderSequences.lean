import Pure3270.Protocol.AddressLaw
import Pure3270.Protocol.DataTransparency

/-!
# Sequences of orders

The order loop takes one round for each entry of a record body.  Every order
leaves the reader behind its own bytes, with one exception: MF has a pair count
like SFE, but its handler takes the count for an attribute type and reads pairs
until the record ends.
-/

namespace Pure3270

open Foundations

/-- The items of a record body, and MF with its pair count. -/
inductive BodyEntry where
  | item (item : Item)
  | mf (pairs : List (UInt8 × UInt8))
  deriving DecidableEq

namespace BodyEntry

def encode : BodyEntry → List UInt8
  | item entry => entry.encode
  | mf pairs => 0x2C :: UInt8.ofNat pairs.length :: encodePairs pairs

/-- Data is from `0x41` on and no structured field; a count is one byte. -/
def WellFormed : BodyEntry → Prop
  | item (.data byte) => 0x41 ≤ byte ∧ byte ≠ 0x88
  | item (.sfe pairs) => pairs.length < 256
  | item _ => True
  | mf pairs => pairs.length < 256

theorem wellFormed_item {entry : Item} (formed : (item entry).WellFormed) :
    entry.WellFormed ∧ entry ≠ .data 0x40 := by
  cases entry with
  | data byte =>
      obtain ⟨graphic, field⟩ := formed
      have large : 0x41 ≤ byte.toNat := UInt8.le_iff_toNat_le.mp graphic
      have space : byte ≠ 0x40 := by
        rintro rfl
        exact absurd large (by decide)
      have graphic : 0x40 ≤ byte := by
        refine UInt8.le_iff_toNat_le.mpr ?_
        show 0x40 ≤ byte.toNat
        omega
      exact ⟨.inl (DataStreamParser.orderHandlers_graphic graphic space field),
        by simpa using space⟩
  | sfe pairs => exact ⟨formed, by simp⟩
  | _ => exact ⟨trivial, by simp⟩

theorem length_encodePairs (pairs : List (UInt8 × UInt8)) :
    (encodePairs pairs).length = 2 * pairs.length := by
  induction pairs with
  | nil => rfl
  | cons pair pairs ih =>
      unfold encodePairs at ih ⊢
      rw [List.flatMap_cons, List.length_append, ih, List.length_cons]
      simp only [List.length_cons, List.length_nil]
      omega

end BodyEntry

/-- The bytes of a record body. -/
def encodeEntries (entries : List BodyEntry) : List UInt8 :=
  entries.flatMap BodyEntry.encode

/-- No MF but one without pairs at the end of the record. -/
def OnlyLastEmptyMf : List BodyEntry → Prop
  | [] => True
  | .item _ :: entries => OnlyLastEmptyMf entries
  | .mf pairs :: entries => pairs = [] ∧ entries = []

theorem OnlyLastEmptyMf.of_append {first second : List BodyEntry}
    (only : OnlyLastEmptyMf (first ++ second)) :
    OnlyLastEmptyMf first ∧ OnlyLastEmptyMf second := by
  induction first with
  | nil => exact ⟨trivial, only⟩
  | cons entry first ih =>
      cases entry with
      | item entry => exact ih only
      | mf pairs =>
          obtain ⟨empty, last⟩ := only
          obtain ⟨rfl, rfl⟩ := List.append_eq_nil_iff.mp last
          exact ⟨⟨empty, rfl⟩, trivial⟩

namespace DataStreamParser

/-- Each entry is one round of the loop, which leaves the reader behind exactly
the bytes of the entry. -/
inductive Turns (snapshot : Option ScreenSnapshot) :
    DataStreamParser → List BodyEntry → DataStreamParser → Prop where
  | nil {parser : DataStreamParser} : Turns snapshot parser [] parser
  | cons {before middle after : DataStreamParser} {entry : BodyEntry}
      {entries : List BodyEntry}
      (round : parseRound snapshot before = .ok none middle)
      (past : middle.parserPos = before.parserPos + entry.encode.length)
      (rest : Turns snapshot middle entries after) :
      Turns snapshot before (entry :: entries) after

/-- A parser without what it reads and where it stands. -/
def withoutReader (parser : DataStreamParser) : DataStreamParser :=
  { parser with data := [], parserPos := 0, pos := 0 }

/-- The effects of a run of entries, one after the other. -/
def effects (entries : List BodyEntry) (parser : DataStreamParser) :
    DataStreamParser :=
  entries.foldl
    (fun reached entry =>
      match entry with
      | .item entry => entry.effect reached
      | .mf _ => reached)
    parser

theorem withoutReader_after (entry : Item) (parser : DataStreamParser) :
    (entry.after parser).withoutReader = entry.effect parser.withoutReader := by
  cases entry <;> rfl

/-- MF takes the rest of the record by pairs. -/
theorem modifyFieldPairs_reads {target : Nat × Nat} {fuel : Nat}
    {parser : DataStreamParser} {bytes : List UInt8}
    (mirrored : parser.pos ≤ parser.parserPos)
    (aligned : parser.pos = parser.parserPos ∨ 2 ≤ bytes.length)
    (enough : bytes.length ≤ fuel)
    (split : parser.data.drop parser.parserPos = bytes) :
    ∃ after, modifyFieldPairs target fuel parser = .ok () after ∧
      after.parserPos = parser.parserPos + 2 * (bytes.length / 2) := by
  induction fuel generalizing parser bytes with
  | zero =>
      have none : bytes.length = 0 := Nat.le_zero.mp enough
      exact ⟨parser, rfl, by omega⟩
  | succ fuel ih =>
      have lengths := congrArg List.length split
      rw [List.length_drop] at lengths
      by_cases more : 2 ≤ bytes.length
      · obtain ⟨attrType, attrValue, rest, rfl⟩ :
            ∃ attrType attrValue rest, bytes = attrType :: attrValue :: rest := by
          cases bytes with
          | nil => exact absurd more (by simp)
          | cons attrType bytes =>
              cases bytes with
              | nil => exact absurd more (by simp)
              | cons attrValue rest => exact ⟨attrType, attrValue, rest, rfl⟩
        have first : parser.At (attrType :: attrValue :: rest) :=
          ⟨[], by rw [List.append_nil]; exact split⟩
        have second : (parser.read 1).At (attrValue :: rest) := first.tail rfl rfl
        have later : parser.data.drop (parser.parserPos + 2) = rest := by
          rw [← List.drop_drop, split]
          rfl
        simp only [List.length_cons] at lengths enough ⊢
        obtain ⟨after, ran, reached⟩ := @ih
          { parser.read 2 with
            screen := parser.screen.setExtendedAttributeSfe attrType attrValue
              (some target) } rest (Nat.le_refl _) (.inl rfl) (by omega) later
        refine ⟨after, ?_, ?_⟩
        · unfold modifyFieldPairs
          rw [run_get_bind, if_neg (by omega), run_bind_ok (readByte_at first mirrored),
            run_bind_ok (readByte_at second (Nat.le_refl _)),
            run_bind_ok (rfl : modifyScreen _ ((parser.read 1).read 1) = .ok () _)]
          exact ran
        · have moved : after.parserPos =
              parser.parserPos + 2 + 2 * (rest.length / 2) := reached
          omega
      · have same := aligned.resolve_right more
        refine ⟨parser, ?_, by omega⟩
        unfold modifyFieldPairs
        rw [run_get_bind, if_pos (by omega)]
        rfl

theorem parseRound_mf {parser : DataStreamParser} {operands : List UInt8}
    (mirrored : parser.pos ≤ parser.parserPos) (enough : 2 ≤ operands.length)
    (split : parser.data.drop parser.parserPos = 0x2C :: operands)
    (snapshot : Option ScreenSnapshot) :
    ∃ after, parseRound snapshot parser = .ok none after ∧
      after.parserPos = parser.parserPos + 1 + 2 * (operands.length / 2) := by
  have here : parser.At (0x2C :: operands) := ⟨[], by rw [List.append_nil]; exact split⟩
  have available := here.length_le
  simp only [List.length_cons, remaining] at available
  have later : parser.data.drop (parser.parserPos + 1) = operands := by
    rw [← List.drop_drop, split]
    rfl
  have rest : ({ parser with
      parserPos := parser.parserPos + 1 } : DataStreamParser).At operands :=
    ⟨[], by rw [List.append_nil]; exact later⟩
  obtain ⟨after, ran, reached⟩ := @modifyFieldPairs_reads
    parser.resolveFieldStartPosition parser.data.length
    { parser with parserPos := parser.parserPos + 1 } operands
    (Nat.le_succ_of_le mirrored) (.inr enough) (by omega) later
  have handled : handleMf { parser with parserPos := parser.parserPos + 1 } =
      .ok () after := by
    unfold handleMf
    rw [run_bind_ok (validateMinData_at rest enough), run_get_bind]
    exact ran
  have more : parser.hasMore = true := by
    simp only [hasMore, decide_eq_true_eq]
    omega
  refine ⟨{ after with pos := after.parserPos }, ?_, reached⟩
  rw [parseRound_run, if_pos more, processByte_run here.head,
    dispatch_handled (rfl : orderHandlers 0x2C = some handleMf) handled]

/-- An MF without pairs at the end of a record is skipped byte by byte. -/
theorem parseRound_lastMf {parser : DataStreamParser}
    (before : Before [0x2C, 0x00] parser) (snapshot : Option ScreenSnapshot) :
    ∃ after, parseRound snapshot parser = .ok none after ∧
      after.parserPos = parser.parserPos + 2 ∧ Before [] after ∧
      after.withoutReader = parser.withoutReader := by
  have lengths := congrArg List.length before.split
  simp only [List.length_drop, List.length_cons, List.length_nil] at lengths
  have here : parser.At [0x2C, 0x00] :=
    ⟨[], by rw [List.append_nil]; exact before.split⟩
  have left : ({ parser with
      parserPos := parser.parserPos + 1 } : DataStreamParser).remaining = 1 := by
    unfold remaining
    simp only
    omega
  have failed : handleMf { parser with parserPos := parser.parserPos + 1 } =
      .error (.parseError "Incomplete MF order: need 2 bytes, have 1")
        { parser with parserPos := parser.parserPos + 1 } := by
    have short := @validateMinData_short "MF" 2
      { parser with parserPos := parser.parserPos + 1 } (by rw [left]; decide)
    rw [left] at short
    exact run_bind_error short
  refine ⟨{ parser with
    parserPos := parser.parserPos + 2, pos := parser.parserPos + 2 }, ?_, rfl, ?_, rfl⟩
  · have inside : parser.parserPos + 1 < parser.data.length := by omega
    rw [parseRound_run, if_pos before.hasMore, processByte_run here.head,
      dispatch_failed (rfl : orderHandlers 0x2C = some handleMf) failed]
    simp only
    rw [handleOrderError_run, if_neg (by decide), if_neg (by decide)]
    unfold skipped
    simp only [if_pos inside]
  · refine ⟨before.valid, ⟨Nat.le_refl _, ?_⟩, ?_⟩
    · simp only
      omega
    · exact List.drop_eq_nil_of_le (by simp only; omega)

theorem turns_of_only {parser : DataStreamParser} {entries : List BodyEntry}
    (only : OnlyLastEmptyMf entries) (formed : ∀ entry ∈ entries, entry.WellFormed)
    (before : Before (encodeEntries entries) parser)
    (snapshot : Option ScreenSnapshot) :
    ∃ after, Turns snapshot parser entries after ∧ Before [] after ∧
      after.withoutReader = effects entries parser.withoutReader := by
  induction entries generalizing parser with
  | nil => exact ⟨parser, .nil, before, rfl⟩
  | cons entry entries ih =>
      have later := fun other member => formed other (List.mem_cons_of_mem _ member)
      cases entry with
      | item entry =>
          obtain ⟨itemFormed, notSpace⟩ :=
            BodyEntry.wellFormed_item (formed _ List.mem_cons_self)
          have first : Before (entry.encode ++ encodeEntries entries) parser := before
          obtain ⟨round, next⟩ := first.item itemFormed
            (fun space => absurd space notSpace) snapshot
          obtain ⟨after, turns, ended, same⟩ := ih only later next
          refine ⟨after, .cons round rfl turns, ended, ?_⟩
          rw [same, withoutReader_after]
          rfl
      | mf pairs =>
          obtain ⟨rfl, rfl⟩ := only
          obtain ⟨after, round, past, ended, same⟩ := parseRound_lastMf before snapshot
          exact ⟨after, .cons round past .nil, ended, same⟩

/-- In turn there is no room for an MF that has pairs or something behind it:
it takes an even number of operand bytes. -/
theorem Turns.onlyLastEmptyMf {snapshot : Option ScreenSnapshot}
    {parser after : DataStreamParser} {entries : List BodyEntry}
    (turns : Turns snapshot parser entries after)
    (formed : ∀ entry ∈ entries, entry.WellFormed)
    (before : Before (encodeEntries entries) parser) : OnlyLastEmptyMf entries := by
  induction turns with
  | nil => trivial
  | @cons parser middle after entry entries round past rest ih =>
      have later := fun other member => formed other (List.mem_cons_of_mem _ member)
      cases entry with
      | item entry =>
          obtain ⟨itemFormed, notSpace⟩ :=
            BodyEntry.wellFormed_item (formed _ List.mem_cons_self)
          have first : Before (entry.encode ++ encodeEntries entries) parser := before
          obtain ⟨ran, next⟩ := first.item itemFormed
            (fun space => absurd space notSpace) snapshot
          have same : middle = entry.after parser := by
            rw [ran] at round
            cases round
            rfl
          exact ih later (same ▸ next)
      | mf pairs =>
          have split : parser.data.drop parser.parserPos =
              0x2C :: (UInt8.ofNat pairs.length :: encodePairs pairs ++
                encodeEntries entries) := before.split
          have size : (UInt8.ofNat pairs.length :: encodePairs pairs ++
              encodeEntries entries).length =
                1 + 2 * pairs.length + (encodeEntries entries).length := by
            simp only [List.length_append, List.length_cons,
              BodyEntry.length_encodePairs]
            omega
          by_cases enough : 2 ≤ 1 + 2 * pairs.length + (encodeEntries entries).length
          · obtain ⟨reached, ran, moved⟩ := parseRound_mf before.positioned.1
              (size ▸ enough) split snapshot
            have same : middle = reached := by
              rw [ran] at round
              cases round
              rfl
            have width : (BodyEntry.mf pairs).encode.length = 2 + 2 * pairs.length := by
              simp only [BodyEntry.encode, List.length_cons,
                BodyEntry.length_encodePairs]
              omega
            rw [same, moved, width] at past
            omega
          · have noPairs : pairs = [] := List.length_eq_zero_iff.mp (by omega)
            have nothing : encodeEntries entries = [] :=
              List.length_eq_zero_iff.mp (by omega)
            refine ⟨noPairs, ?_⟩
            cases entries with
            | nil => rfl
            | cons other entries =>
                have some : other.encode = [] := (List.append_eq_nil_iff.mp nothing).1
                cases other with
                | item other =>
                    obtain ⟨byte, bytes, encoded⟩ := other.encode_eq_cons
                    cases encoded.symm.trans some
                | mf pairs => cases some

theorem Turns.parseLoop {snapshot : Option ScreenSnapshot}
    {parser after : DataStreamParser} {entries : List BodyEntry}
    (turns : Turns snapshot parser entries after) (positioned : Positioned parser)
    (ended : Before [] after) :
    ∃ final, parseLoop snapshot parser = .ok .finished final ∧
      final.withoutReader = after.withoutReader ∧ final.screen = after.screen := by
  have progress := parseRound_progress snapshot
  have rounds : ∀ {fuel : Nat}, loopMeasure parser < fuel →
      iterate (parseRound snapshot) fuel parser =
        iterate (parseRound snapshot) fuel after := by
    clear ended
    induction turns with
    | nil => exact fun _ => rfl
    | cons round past rest ih =>
        intro fuel enough
        have lower := progress.lowers positioned round
        exact (iterate_unfold progress positioned enough round).trans
          (ih (progress.keeps positioned round) (lower.trans enough))
  have exhausted : after.hasMore = false := by
    have lengths := congrArg List.length ended.split
    simp only [List.length_drop, List.length_nil] at lengths
    simp only [hasMore, decide_eq_false_iff_not]
    omega
  have last : parseRound snapshot after = .ok (some .finished) after := by
    rw [parseRound_run, exhausted]
    simp
  rw [parseLoop_run, rounds (loopMeasure_lt_roundLimit parser)]
  unfold roundLimit
  rw [Nat.succ_mul, ← Nat.add_assoc, iterate_succ, last]
  exact ⟨_, rfl, rfl, rfl⟩

/-- The loop on a record body of its own. -/
def readBody (snapshot : Option ScreenSnapshot) (body : List UInt8)
    (parser : DataStreamParser) : DataStreamParser :=
  finalState (parseLoop snapshot
    { parser with data := body, parserPos := 0, pos := 0 })

theorem readBody_of_only {entries : List BodyEntry}
    (only : OnlyLastEmptyMf entries) (formed : ∀ entry ∈ entries, entry.WellFormed)
    {parser : DataStreamParser} (valid : parser.screen.Valid)
    (snapshot : Option ScreenSnapshot) :
    (readBody snapshot (encodeEntries entries) parser).withoutReader =
        effects entries parser.withoutReader ∧
      (readBody snapshot (encodeEntries entries) parser).screen.Valid := by
  have before : Before (encodeEntries entries)
      { parser with data := encodeEntries entries, parserPos := 0, pos := 0 } :=
    ⟨valid, ⟨Nat.le_refl 0, Nat.zero_le _⟩, rfl⟩
  obtain ⟨after, turns, ended, same⟩ := turns_of_only only formed before snapshot
  obtain ⟨final, ran, meaning, screen⟩ := turns.parseLoop before.positioned ended
  unfold readBody
  rw [ran]
  exact ⟨meaning.trans same, screen ▸ ended.valid⟩

end DataStreamParser

/-- How a record begins: with a write command and a write control character, or
with the write control character alone. -/
inductive Heading where
  | write (command wcc : UInt8)
  | plain (wcc : UInt8)

namespace Heading

open DataStreamParser

def encode : Heading → List UInt8
  | write command wcc => [command, wcc]
  | plain wcc => [wcc]

def WellFormed : Heading → Prop
  | write command _ => (isWriteCommand command || isEraseWriteCommand command) = true
  | plain wcc => (isWriteCommand wcc || isEraseWriteCommand wcc) = false

/-- The parser of a record before its heading. -/
def prepared (body : List UInt8) (parser : DataStreamParser) (heading : Heading) :
    DataStreamParser :=
  prepare (decide (bulkThreshold < (heading.encode ++ body).length))
    (heading.encode ++ body) parser

/-- The parser at the start of the order loop. -/
def start (body : List UInt8) (parser : DataStreamParser) (heading : Heading) :
    DataStreamParser :=
  match heading with
  | write _ wcc => startWrite wcc (heading.prepared body parser)
  | plain wcc => afterWcc wcc 1 (heading.prepared body parser)

/-- The snapshot that a rollback of the record would bring back. -/
def snapshot (body : List UInt8) (parser : DataStreamParser) (heading : Heading) :
    Option ScreenSnapshot :=
  match heading with
  | write _ _ => some (heading.prepared body parser).screen.snapshot
  | plain _ => none

theorem before_start {parser : DataStreamParser} (valid : parser.screen.Valid)
    (body : List UInt8) (heading : Heading) :
    Before body (heading.start body parser) := by
  cases heading with
  | write command wcc => exact startWrite_before valid _ command wcc body
  | plain wcc =>
      have prepared := (prepareScreen_valid valid
        (decide (bulkThreshold < (wcc :: body).length))).1
      refine ⟨?_, ⟨Nat.le_refl _, Nat.le_add_left _ _⟩, rfl⟩
      show (ScreenBuffer.applyWcc wcc _).Valid
      unfold ScreenBuffer.applyWcc
      split
      · exact (prepared.setKeyboardLock false).setPosition 0 0
      · exact prepared.setPosition 0 0

theorem parseRecord_eq {heading : Heading} (formed : heading.WellFormed)
    (body : List UInt8) (parser : DataStreamParser) :
    parseRecord (heading.prepared body parser) =
      tryCatch (parseLoop (heading.snapshot body parser))
        (handleParseError (heading.snapshot body parser))
        (heading.start body parser) := by
  cases heading with
  | write command wcc => exact parseRecord_write formed rfl rfl
  | plain wcc => exact parseRecord_plain formed rfl rfl

end Heading

namespace DataStreamParser

/-- The entries of a record are handled in turn: one round of the loop for each,
past exactly its own bytes; `parse` does nothing else with the body; and a body
cut in two is read as its parts, one after the other. -/
structure HandledInTurn (heading : Heading) (entries : List BodyEntry)
    (parser : DataStreamParser) : Prop where
  turns : ∃ after, Turns (heading.snapshot (encodeEntries entries) parser)
    (heading.start (encodeEntries entries) parser) entries after
  whole : (finalState (parse (heading.encode ++ encodeEntries entries) 0x00
      parser)).withoutReader =
    (resume (decide (bulkThreshold <
        (heading.encode ++ encodeEntries entries).length))
      (readBody (heading.snapshot (encodeEntries entries) parser)
        (encodeEntries entries)
        (heading.start (encodeEntries entries) parser))).withoutReader
  composes : ∀ first second, entries = first ++ second →
    (readBody (heading.snapshot (encodeEntries entries) parser)
        (encodeEntries first ++ encodeEntries second)
        (heading.start (encodeEntries entries) parser)).withoutReader =
      (readBody (heading.snapshot (encodeEntries entries) parser)
        (encodeEntries second)
        (readBody (heading.snapshot (encodeEntries entries) parser)
          (encodeEntries first)
          (heading.start (encodeEntries entries) parser))).withoutReader

theorem withoutReader_resume (bulkMode : Bool) (parser : DataStreamParser) :
    (resume bulkMode parser).withoutReader =
      resume bulkMode parser.withoutReader := by
  cases bulkMode <;> rfl

theorem encodeEntries_append (first second : List BodyEntry) :
    encodeEntries (first ++ second) = encodeEntries first ++ encodeEntries second :=
  List.flatMap_append

/-- Every list of complete orders and data is handled in turn exactly when it
holds no MF but an empty one at its end. -/
theorem handledInTurn_iff {parser : DataStreamParser} (valid : parser.screen.Valid)
    {heading : Heading} (headed : heading.WellFormed) {entries : List BodyEntry}
    (formed : ∀ entry ∈ entries, entry.WellFormed) :
    HandledInTurn heading entries parser ↔ OnlyLastEmptyMf entries := by
  have before := heading.before_start valid (encodeEntries entries)
  constructor
  · intro handled
    obtain ⟨after, turns⟩ := handled.turns
    exact turns.onlyLastEmptyMf formed before
  · intro only
    obtain ⟨after, turns, ended, same⟩ := turns_of_only only formed before
      (heading.snapshot (encodeEntries entries) parser)
    refine ⟨⟨after, turns⟩, ?_, ?_⟩
    · obtain ⟨final, ran, meaning, _⟩ := turns.parseLoop before.positioned ended
      have alone := readBody_of_only only formed before.valid
        (heading.snapshot (encodeEntries entries) parser)
      have record := heading.parseRecord_eq headed (encodeEntries entries) parser
      rw [run_tryCatch_ok ran] at record
      rw [parse_tn3270, finalState_mapState, withoutReader_resume, withoutReader_resume,
        alone.1, ← same, ← meaning]
      exact congrArg (fun outcome => resume _ (finalState outcome).withoutReader) record
    · rintro first second rfl
      obtain ⟨onlyFirst, onlySecond⟩ := only.of_append
      have formedFirst := fun entry member =>
        formed entry (List.mem_append_left second member)
      have formedSecond := fun entry member =>
        formed entry (List.mem_append_right first member)
      have one := readBody_of_only onlyFirst formedFirst before.valid
        (heading.snapshot (encodeEntries (first ++ second)) parser)
      rw [← encodeEntries_append, (readBody_of_only only formed before.valid _).1,
        (readBody_of_only onlySecond formedSecond one.2 _).1, one.1]
      exact List.foldl_append

/-- A field, a letter, a field with a base attribute and an empty MF. -/
theorem handledInTurn_small :
    HandledInTurn (.write 0xF5 0xC3)
      [.item (.sba 0x40 0x41), .item (.sf 0x60), .item (.data 0xC1),
        .item (.sfe [(0xC0, 0x20)]), .mf []] (smallParser 0 0) :=
  (handledInTurn_iff (smallParser_valid 0 0) (by unfold Heading.WellFormed; decide)
    (by simp [BodyEntry.WellFormed])).mpr ⟨rfl, rfl⟩

/-- An MF with one pair takes its count for an attribute type and the letter
behind it for an attribute value. -/
theorem not_handledInTurn_mf :
    ¬ HandledInTurn (.write 0xF1 0xC3) [.mf [(0xC0, 0x20)], .item (.data 0xC1)]
      (smallParser 0 0) := by
  intro handled
  obtain ⟨after, turns⟩ := handled.turns
  cases turns with
  | cons round past rest =>
      have reached : (finalState (parseRound
          (Heading.snapshot (encodeEntries [.mf [(0xC0, 0x20)], .item (.data 0xC1)])
            (smallParser 0 0) (.write 0xF1 0xC3))
          (Heading.start (encodeEntries [.mf [(0xC0, 0x20)], .item (.data 0xC1)])
            (smallParser 0 0) (.write 0xF1 0xC3)))).parserPos = 7 := by
        decide +kernel
      rw [round] at reached
      exact absurd (reached.symm.trans past) (by decide +kernel)

end DataStreamParser

end Pure3270

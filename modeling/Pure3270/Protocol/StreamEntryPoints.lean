import Pure3270.Emulation.ScreenOperations
import Pure3270.Protocol.BulkMode
import Pure3270.Protocol.FieldStartCells

/-!
# Two ways in for a data stream

A screen takes a data stream by itself: it forgets its field starts, looks at
all bytes at once, and copies them into its buffer or hands them to a parser of
its own.  A parser takes the same stream without either.  What the forgotten
starts are for is the snapshot of a write that is taken back.
-/

namespace Pure3270

open Foundations

/-- The same contents of two screens. -/
structure SameContents (left right : ScreenBuffer) : Prop where
  buffer : right.buffer = left.buffer
  attributes : right.attributes = left.attributes
  fieldStarts : right.fieldStarts = left.fieldStarts
  fields : right.fields = left.fields

theorem SameContents.symm {first second : ScreenBuffer}
    (same : SameContents first second) : SameContents second first :=
  ⟨same.buffer.symm, same.attributes.symm, same.fieldStarts.symm, same.fields.symm⟩

theorem SameContents.trans {first second third : ScreenBuffer}
    (left : SameContents first second) (right : SameContents second third) :
    SameContents first third :=
  ⟨right.buffer.trans left.buffer, right.attributes.trans left.attributes,
    right.fieldStarts.trans left.fieldStarts, right.fields.trans left.fields⟩

namespace DataStreamParser

/-- The same outcome, unless both leave through one exit. -/
inductive AlikeUnless (exit : α) :
    EStateM.Result Fault DataStreamParser α → EStateM.Result Fault DataStreamParser α →
      Prop where
  | same (result : EStateM.Result Fault DataStreamParser α) :
      AlikeUnless exit result result
  | both (after twin : DataStreamParser) :
      AlikeUnless exit (.ok exit after) (.ok exit twin)

variable {left right : ScreenSnapshot}

theorem parseRound_alikeUnless (parser : DataStreamParser) :
    AlikeUnless (some .rolledBack) (parseRound (some left) parser)
      (parseRound (some right) parser) := by
  rw [parseRound_run, parseRound_run]
  split
  · cases outcome : processByte parser with
    | ok value after => exact .same _
    | error fault after =>
        have unfatal := processByte_unfatal parser fault after outcome
        cases fault with
        | other text => exact .same _
        | parseError text =>
            simp only
            rw [handleOrderError_run, handleOrderError_run,
              not_fatal_of_plain unfatal]
            simp only [Bool.false_eq_true, if_false]
            split
            · exact .both _ _
            · exact .same _
  · exact .same _

theorem iterate_alikeUnless (fuel : Nat) (parser : DataStreamParser) :
    AlikeUnless (some .rolledBack) (iterate (parseRound (some left)) fuel parser)
      (iterate (parseRound (some right)) fuel parser) := by
  induction fuel generalizing parser with
  | zero => exact .same _
  | succ fuel ih =>
      rw [iterate_succ, iterate_succ]
      have round := @parseRound_alikeUnless left right parser
      generalize parseRound (some left) parser = first at round ⊢
      generalize parseRound (some right) parser = second at round ⊢
      cases round with
      | both after twin => exact .both after twin
      | same =>
          cases first with
          | error fault after => exact .same _
          | ok result after =>
              cases result with
              | none => exact ih after
              | some exit => exact .same _

theorem parseLoop_alikeUnless (parser : DataStreamParser) :
    AlikeUnless .rolledBack (parseLoop (some left) parser)
      (parseLoop (some right) parser) := by
  rw [parseLoop_run, parseLoop_run]
  have looped := @iterate_alikeUnless left right (roundLimit parser.data.length) parser
  generalize iterate (parseRound (some left)) _ parser = first at looped
  generalize iterate (parseRound (some right)) _ parser = second at looped
  cases looped with
  | same => exact .same _
  | both after twin => exact .both after twin

theorem AlikeUnless.mapState {exit : α} (f : DataStreamParser → DataStreamParser)
    {first second : EStateM.Result Fault DataStreamParser α}
    (alike : AlikeUnless exit first second) :
    AlikeUnless exit (mapState f first) (mapState f second) := by
  cases alike with
  | same => exact .same _
  | both after twin => exact .both (f after) (f twin)

/-- A screen that has forgotten its field starts. -/
def forget (screen : ScreenBuffer) : ScreenBuffer :=
  { screen with fieldStarts := SortedSet.empty }

variable {screen : ScreenBuffer} {command wcc : UInt8} {body : List UInt8}

/-- The parser that reads a stream into a screen. -/
abbrev onto (screen : ScreenBuffer) : DataStreamParser :=
  init screen none false .mode12Bit

theorem startWrite_forget (bulkMode : Bool) (data : List UInt8) (wcc : UInt8)
    (screen : ScreenBuffer) :
    startWrite wcc (prepare bulkMode data (onto (forget screen))) =
      startWrite wcc (prepare bulkMode data (onto screen)) := by
  cases bulkMode with
  | false => rfl
  | true => rfl

theorem parse_forget
    (write : isWriteCommand command || isEraseWriteCommand command) :
    AlikeUnless .rolledBack
      (parse (command :: wcc :: body) 0x00 (onto screen))
      (parse (command :: wcc :: body) 0x00 (onto (forget screen))) := by
  rw [parse_tn3270, parse_tn3270]
  generalize decide (bulkThreshold < (command :: wcc :: body).length) = bulkMode
  apply AlikeUnless.mapState
  rw [parseRecord_write write rfl rfl, parseRecord_write write rfl rfl,
    startWrite_forget]
  have noPrinter : (startWrite wcc (prepare bulkMode (command :: wcc :: body)
      (onto screen))).printer = none := rfl
  have looped := @parseLoop_alikeUnless
    (prepare bulkMode (command :: wcc :: body) (onto screen)).screen.snapshot
    (prepare bulkMode (command :: wcc :: body) (onto (forget screen))).screen.snapshot
    (startWrite wcc (prepare bulkMode (command :: wcc :: body) (onto screen)))
  cases first : parseLoop
      (some (prepare bulkMode (command :: wcc :: body) (onto screen)).screen.snapshot)
      (startWrite wcc (prepare bulkMode (command :: wcc :: body) (onto screen))) with
  | error fault after =>
      exact (parseLoop_returns noPrinter fault after first).elim
  | ok exit after =>
      rw [first] at looped
      rw [run_tryCatch_ok first]
      cases second : parseLoop (some (prepare bulkMode (command :: wcc :: body)
          (onto (forget screen))).screen.snapshot)
          (startWrite wcc (prepare bulkMode (command :: wcc :: body) (onto screen))) with
      | error fault twin =>
          exact (parseLoop_returns noPrinter fault twin second).elim
      | ok exit' twin =>
          rw [second] at looped
          rw [run_tryCatch_ok second]
          exact looped

/-- Changes among which no attribute is set. -/
def NoAttribute (list : List ScreenChange) : Prop :=
  ∀ next ∈ list, ∀ attr, next ≠ .setAttribute attr

theorem noAttribute_append {first second : List ScreenChange}
    (left : NoAttribute first) (right : NoAttribute second) :
    NoAttribute (first ++ second) :=
  fun next member => (List.mem_append.mp member).elim (left next) (right next)

theorem noAttribute_singleton {next : ScreenChange}
    (other : ∀ attr, next ≠ .setAttribute attr) : NoAttribute [next] := by
  intro same member
  rw [List.mem_singleton.mp member]
  exact other

theorem noAttribute_nil : NoAttribute [] :=
  fun _ member => absurd member List.not_mem_nil

theorem storeLog_noAttribute {list : List ScreenChange} {screen : ScreenBuffer}
    (without : NoAttribute list) (pos : Nat) :
    (pos, .attribute) ∉ screen.storeLog list := by
  induction list generalizing screen with
  | nil => exact List.not_mem_nil
  | cons next list ih =>
      rw [ScreenBuffer.storeLog, List.mem_append]
      rintro (here | later)
      · have other := without next List.mem_cons_self
        cases next with
        | setAttribute attr => exact other attr rfl
        | insertByte byte => simp [ScreenChange.stores] at here
        | eraseCell position =>
            rw [ScreenChange.stores] at here
            split at here
            · simp at here
            · cases here
        | setPosition row col => cases here
        | setExtended attrType attrValue position => cases here
        | firstInput => cases here
        | programTab => cases here
      · exact ih (fun other member => without other (List.mem_cons_of_mem _ member)) later

theorem fieldStarts_of_noAttribute {list : List ScreenChange}
    (valid : screen.Valid) (without : NoAttribute list) :
    (screen.changes list).fieldStarts = screen.fieldStarts := by
  apply SortedSet.ext_mem
  intro pos
  rw [ScreenBuffer.mem_fieldStarts_changes valid]
  exact or_iff_left (storeLog_noAttribute without pos)

theorem dataChanges_noAttribute (byte : UInt8) :
    NoAttribute (ScreenBuffer.dataChanges byte) := by
  unfold ScreenBuffer.dataChanges
  split
  · exact noAttribute_nil
  · exact noAttribute_singleton fun _ => nofun

theorem repeatChanges_noAttribute (byte : UInt8) (count : Nat) :
    NoAttribute (ScreenBuffer.repeatChanges byte count) := by
  induction count with
  | zero => exact noAttribute_nil
  | succ count ih => exact noAttribute_append (dataChanges_noAttribute byte) ih

theorem eraseChanges_noAttribute (count : Nat) (position : Nat × Nat)
    (screen : ScreenBuffer) :
    NoAttribute (ScreenBuffer.eraseChanges count position screen) := by
  induction count generalizing position screen with
  | zero => exact noAttribute_nil
  | succ count ih =>
      apply noAttribute_append _ (ih _ _)
      split
      · exact noAttribute_nil
      · exact noAttribute_singleton fun _ => nofun

theorem pairChanges_noAttribute {pairs : List (UInt8 × UInt8)}
    (extended : ∀ pair ∈ pairs, pair.1 ≠ 0xC0) :
    NoAttribute (pairs.flatMap ScreenBuffer.pairChanges) := by
  intro next member
  obtain ⟨pair, isPair, inPair⟩ := List.mem_flatMap.mp member
  unfold ScreenBuffer.pairChanges at inPair
  rw [if_neg (extended pair isPair)] at inPair
  split at inPair
  · rw [List.mem_singleton.mp inPair]
    exact fun _ => nofun
  · cases inPair

theorem item_noAttribute {item : Item} {mode : AddressingMode} {fieldStart : Nat × Nat}
    (plain : ∀ attr, item ≠ .sf attr)
    (extended : ∀ pairs, item = .sfe pairs → ∀ pair ∈ pairs, pair.1 ≠ 0xC0) :
    NoAttribute (item.changes mode fieldStart screen) := by
  have moves : ∀ row col, NoAttribute [.setPosition row col] :=
    fun _ _ => noAttribute_singleton fun _ => nofun
  cases item with
  | data byte => exact dataChanges_noAttribute byte
  | sba high low => exact moves _ _
  | sf attr => exact absurd rfl (plain attr)
  | sa attrType attrValue => exact noAttribute_singleton fun _ => nofun
  | sfe pairs =>
      apply noAttribute_append (pairChanges_noAttribute (extended pairs rfl))
      split
      · exact moves _ _
      · exact noAttribute_nil
  | ra high low charToRepeat =>
      exact noAttribute_append (repeatChanges_noAttribute _ _) (moves _ _)
  | eua high low =>
      exact noAttribute_append (eraseChanges_noAttribute _ _ _) (moves _ _)
  | ge graphicByte => exact dataChanges_noAttribute _
  | ic => exact noAttribute_singleton fun _ => nofun
  | pt => exact noAttribute_singleton fun _ => nofun

theorem mem_of_takePairs {count : Nat} {bytes : List UInt8} {pair : UInt8 × UInt8}
    (member : pair ∈ takePairs count bytes) : pair.1 ∈ bytes := by
  induction count generalizing bytes with
  | zero => cases member
  | succ count ih =>
      match bytes, member with
      | attrType :: attrValue :: rest, member =>
          rw [takePairs] at member
          rcases List.mem_cons.mp member with rfl | later
          · exact List.mem_cons_self
          · exact List.mem_cons_of_mem _ (List.mem_cons_of_mem _ (ih later))

theorem nextItem_sf {byte attr : UInt8} {operands : List UInt8}
    (found : nextItem byte operands = some (.sf attr)) : byte = 0x1D := by
  unfold nextItem at found
  split at found
  case h_2 => rfl
  all_goals first
    | cases found
    | (split at found <;> cases found)

theorem nextItem_sfe {byte : UInt8} {operands : List UInt8}
    {pairs : List (UInt8 × UInt8)} (found : nextItem byte operands = some (.sfe pairs)) :
    ∃ length rest, operands = length :: rest ∧ pairs = takePairs length.toNat rest := by
  unfold nextItem at found
  split at found
  case h_4 length rest =>
    cases found
    exact ⟨length, rest, rfl, rfl⟩
  all_goals first
    | cases found
    | (split at found <;> cases found)

/-- Bytes that are taken for text start no field. -/
theorem roundChanges_noAttribute {parser : DataStreamParser}
    (simple : ∀ byte ∈ parser.data, ScreenBuffer.isSimpleByte byte = true) :
    NoAttribute parser.roundChanges := by
  unfold roundChanges
  split
  · exact noAttribute_nil
  · rename_i byte operands split
    have inData : ∀ other ∈ byte :: operands,
        ScreenBuffer.isSimpleByte other = true := fun other member =>
      simple other (List.mem_of_mem_drop (split ▸ member))
    have first := inData byte List.mem_cons_self
    split
    · split
      · exact noAttribute_nil
      · intro next member
        obtain ⟨pair, -, rfl⟩ := List.mem_map.mp member
        intro _ starts
        cases starts
    · split
      · rename_i structured
        rw [structured] at first
        exact absurd first (by decide)
      · split
        · rename_i item found
          apply item_noAttribute
          · rintro attr rfl
            rw [nextItem_sf found] at first
            exact absurd first (by decide)
          · rintro pairs rfl pair member base
            obtain ⟨length, rest, rfl, rfl⟩ := nextItem_sfe found
            have inside := inData pair.1
              (List.mem_cons_of_mem _ (List.mem_cons_of_mem _ (mem_of_takePairs member)))
            rw [base] at inside
            exact absurd inside (by decide)
        · exact noAttribute_nil

theorem loopChanges_noAttribute (snapshot : Option ScreenSnapshot) (fuel : Nat)
    {parser : DataStreamParser}
    (simple : ∀ byte ∈ parser.data, ScreenBuffer.isSimpleByte byte = true) :
    NoAttribute (loopChanges snapshot fuel parser) := by
  induction fuel generalizing parser with
  | zero => exact fun next member => absurd member List.not_mem_nil
  | succ fuel ih =>
      intro next member
      rw [loopChanges] at member
      rcases List.mem_append.mp member with here | later
      · exact roundChanges_noAttribute simple next here
      · split at later
        · rename_i after round
          exact ih (by rwa [parseRound_data round]) next later
        · cases later

theorem onto_returns (data : List UInt8) (screen : ScreenBuffer)
    (long : 2 ≤ data.length) :
    ∃ exit, parse data 0x00 (onto screen) =
      .ok exit (finalState (parse data 0x00 (onto screen))) := by
  cases outcome : parse data 0x00 (onto screen) with
  | ok exit after => exact ⟨exit, rfl⟩
  | error fault after =>
      obtain ⟨command, single, -⟩ := parse_raises rfl outcome
      rw [single] at long
      exact absurd long (Nat.not_succ_le_self 1)

theorem valid_forget (valid : screen.Valid) : (forget screen).Valid :=
  { valid with starts_lt := fun _ member => absurd member (by simp [forget]) }

/-- What a rollback leaves, once the fields have been detected. -/
theorem aborted_contents (valid : screen.Valid)
    (write : isWriteCommand command || isEraseWriteCommand command)
    (aborted : Aborted (parse (command :: wcc :: body) 0x00 (onto screen))) :
    SameContents { screen with extendedAttributes := screen.reloadExtended }.detectFields
      (finalState (parse (command :: wcc :: body) 0x00 (onto screen))).screen.detectFields := by
  have left := parse_aborted valid write aborted
  exact
    { buffer := left.buffer
      attributes := left.attributes
      fieldStarts := left.fieldStarts
      fields := ScreenBuffer.detectedFields_congr left.rows left.cols left.buffer
        left.attributes left.extended left.fieldStarts }

/-- The screen takes the stream for text. -/
def TakenForText (data : List UInt8) (screen : ScreenBuffer) : Prop :=
  data.all ScreenBuffer.isSimpleByte ∧ data.length ≤ screen.size

instance (data : List UInt8) (screen : ScreenBuffer) :
    Decidable (TakenForText data screen) := by
  unfold TakenForText
  infer_instance

theorem updateFromStream_text {data : List UInt8} (nonempty : data ≠ [])
    (text : TakenForText data screen) :
    screen.updateFromStream data =
      { screen with
        buffer := data ++ screen.buffer.drop data.length
        fieldStarts := SortedSet.empty.insert 0 }.detectFields := by
  have simple : data.all ScreenBuffer.isSimpleByte ∧ data.length ≤ screen.size := text
  unfold ScreenBuffer.updateFromStream
  rw [if_neg nonempty]
  simp only
  rw [if_pos simple]

theorem updateFromStream_parsed {data : List UInt8} (long : 2 ≤ data.length)
    (notText : ¬ TakenForText data screen) :
    screen.updateFromStream data =
      (finalState (parse data 0x00 (onto (forget screen)))).screen.detectFields := by
  have nonempty : data ≠ [] := by
    rintro rfl
    exact absurd long (by decide)
  obtain ⟨exit, returned⟩ := onto_returns data (forget screen) long
  have parsed : ¬ (data.all ScreenBuffer.isSimpleByte ∧ data.length ≤ screen.size) :=
    notText
  unfold ScreenBuffer.updateFromStream
  rw [if_neg nonempty]
  simp only
  unfold onto forget at returned ⊢
  rw [if_neg parsed, returned]
  rfl

/-- The stream does the same to the screen whichever way it goes in. -/
def EntryPointsAgree (data : List UInt8) (screen : ScreenBuffer) : Prop :=
  SameContents (screen.updateFromStream data)
    (finalState (parse data 0x00 (onto screen))).screen.detectFields

/-- The stream is rolled back by the parser, and what the screen copies is there
already: the bytes, the one field start, and the field that reloading the
attribute sets leads to. -/
structure CopiesNothingNew (data : List UInt8) (screen : ScreenBuffer) : Prop where
  aborted : Aborted (parse data 0x00 (onto screen))
  bytes : data <+: screen.buffer
  starts : screen.fieldStarts = SortedSet.empty.insert 0
  fields : { screen with extendedAttributes := screen.reloadExtended }.detectedFields =
    screen.detectedFields

theorem entryPointsAgree_text (valid : screen.Valid)
    (write : isWriteCommand command || isEraseWriteCommand command)
    (text : TakenForText (command :: wcc :: body) screen) :
    EntryPointsAgree (command :: wcc :: body) screen ↔
      CopiesNothingNew (command :: wcc :: body) screen := by
  have copied := updateFromStream_text (List.cons_ne_nil _ _) text
  unfold EntryPointsAgree
  rw [copied]
  by_cases aborted : Aborted (parse (command :: wcc :: body) 0x00 (onto screen))
  · have left := aborted_contents valid write aborted
    constructor
    · intro same
      have both := same.trans left.symm
      have starts : screen.fieldStarts = SortedSet.empty.insert 0 := both.fieldStarts
      have bytes : screen.buffer = (command :: wcc :: body) ++
          screen.buffer.drop (command :: wcc :: body).length := both.buffer
      have fields : _ = _ := both.fields
      refine ⟨aborted, ⟨_, bytes.symm⟩, starts, ?_⟩
      refine Eq.trans fields ?_
      exact ScreenBuffer.detectedFields_congr rfl rfl bytes.symm rfl rfl starts.symm
    · intro nothingNew
      have bytes : (command :: wcc :: body) ++
          screen.buffer.drop (command :: wcc :: body).length = screen.buffer :=
        List.prefix_iff_eq_append.mp nothingNew.bytes
      have same : { screen with
          buffer := (command :: wcc :: body) ++
            screen.buffer.drop (command :: wcc :: body).length
          fieldStarts := SortedSet.empty.insert 0 } = screen := by
        rw [bytes, ← nothingNew.starts]
      rw [same]
      refine SameContents.trans ?_ left
      exact ⟨rfl, rfl, rfl, nothingNew.fields⟩
  · refine iff_of_false ?_ fun nothingNew => aborted nothingNew.aborted
    intro same
    have simple : ∀ byte ∈ (writeStart wcc (command :: wcc :: body) (onto screen)).data,
        ScreenBuffer.isSimpleByte byte = true :=
      List.all_eq_true.mp text.1
    have before := @writeStart_before (onto screen) valid command wcc body
    have unmarked : (finalState (parse (command :: wcc :: body) 0x00
        (onto screen))).screen.fieldStarts = SortedSet.empty := by
      rw [parse_changes valid write aborted, resumeScreen_fieldStarts]
      refine (fieldStarts_of_noAttribute before.valid
        (loopChanges_noAttribute _ _ simple)).trans ?_
      exact writeStart_fieldStarts wcc _ _
    have starts : _ = SortedSet.empty.insert 0 := same.fieldStarts
    have first : 0 ∈ SortedSet.empty.insert 0 := by simp
    rw [← starts] at first
    have absent : 0 ∉ SortedSet.empty := by simp
    exact absent (unmarked ▸ first)

theorem entryPointsAgree_parsed (valid : screen.Valid)
    (write : isWriteCommand command || isEraseWriteCommand command)
    (notText : ¬ TakenForText (command :: wcc :: body) screen) :
    EntryPointsAgree (command :: wcc :: body) screen ↔
      ¬ Aborted (parse (command :: wcc :: body) 0x00 (onto screen)) ∨
        screen.fieldStarts = SortedSet.empty := by
  have alike := @parse_forget screen command wcc body write
  have long : 2 ≤ (command :: wcc :: body).length := by simp
  unfold EntryPointsAgree
  rw [updateFromStream_parsed long notText]
  by_cases aborted : Aborted (parse (command :: wcc :: body) 0x00 (onto screen))
  · have abortedToo : Aborted (parse (command :: wcc :: body) 0x00
        (onto (forget screen))) := by
      generalize parse (command :: wcc :: body) 0x00 (onto screen) = first at *
      generalize parse (command :: wcc :: body) 0x00 (onto (forget screen)) = second
        at alike ⊢
      cases alike with
      | same => exact aborted
      | both after twin => exact .rolledBack twin
    have here := aborted_contents valid write aborted
    have there := aborted_contents (valid_forget valid) write abortedToo
    rw [or_iff_right (not_not_intro aborted)]
    constructor
    · intro same
      exact (there.trans (same.trans here.symm)).fieldStarts
    · intro unmarked
      have forgotten : forget screen = screen := by
        unfold forget
        rw [← unmarked]
      rw [forgotten]
      exact ⟨rfl, rfl, rfl, rfl⟩
  · refine iff_of_true ?_ (.inl aborted)
    generalize parse (command :: wcc :: body) 0x00 (onto screen) = first at *
    generalize parse (command :: wcc :: body) 0x00 (onto (forget screen)) = second
      at alike ⊢
    cases alike with
    | same => exact ⟨rfl, rfl, rfl, rfl⟩
    | both after twin => exact absurd (.rolledBack after) aborted

/-- The two ways agree on a stream with a write command and a write control
character in two cases: it is parsed, and not rolled back unless the screen has
no field starts to forget; or it is copied, and rolled back by the parser, and
nothing that is copied is new. -/
theorem entryPointsAgree_iff (valid : screen.Valid)
    (write : isWriteCommand command || isEraseWriteCommand command) :
    EntryPointsAgree (command :: wcc :: body) screen ↔
      if TakenForText (command :: wcc :: body) screen then
        CopiesNothingNew (command :: wcc :: body) screen
      else
        ¬ Aborted (parse (command :: wcc :: body) 0x00 (onto screen)) ∨
          screen.fieldStarts = SortedSet.empty := by
  split
  · rename_i text
    exact entryPointsAgree_text valid write text
  · rename_i notText
    exact entryPointsAgree_parsed valid write notText

/-- An Erase/Write with a field. -/
theorem entryPointsAgree_eraseWrite :
    EntryPointsAgree [0x05, 0xC3, 0x1D, 0x60, 0xC1] (smallParser 0 0).screen := by
  refine (entryPointsAgree_iff (smallParser_valid 0 0) (by decide)).mpr ?_
  rw [if_neg (by decide +kernel)]
  exact .inl (by decide +kernel)

/-- An Erase/Write Alternate with an SA order and a letter is copied, order and
all. -/
theorem not_entryPointsAgree_order :
    ¬ EntryPointsAgree [0x7E, 0xC3, 0x28, 0x41, 0x42, 0xC1] (smallParser 0 0).screen := by
  intro agree
  have same := agree.buffer
  revert same
  decide +kernel

end DataStreamParser

end Pure3270

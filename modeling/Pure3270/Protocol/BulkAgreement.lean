import Pure3270.Protocol.FieldLookups

/-!
# When bulk mode agrees with plain mode

A record that looks fields up before it starts any leaves the same screen in
both modes exactly when it shows nothing new since the last detection of the
plain path, or is rolled back.
-/

namespace Pure3270

open Foundations

/-- The change of a cell that EUA does not pass over. -/
def ScreenChange.erases : ScreenChange → Bool
  | eraseCell _ => true
  | _ => false

namespace DataStreamParser

open ScreenBuffer

/-- The changes that a record makes to the screen in the plain path. -/
def plainChanges (data : List UInt8) (parser : DataStreamParser) : List ScreenChange :=
  loopChanges (recordSnapshot (prepare false data parser)) (roundLimit data.length)
    (plainStart data parser)

/-- A record that does not erase the screen has fields to go by: the list is current
when the record comes or is detected in it; and since the last detection EUA erases no cell
that a field covers. -/
structure Settles (data : List UInt8) (parser : DataStreamParser) : Prop where
  current : parser.screen.FieldsCurrent ∨
    detectsAmong (plainChanges data parser) (plainStart data parser).screen = true
  spares : SinceDetection (Along change fun next screen => screen.Spares next)
    (plainChanges data parser) (plainStart data parser).screen

/-- The record erases the screen and takes it back. -/
def RolledBack (data : List UInt8) (parser : DataStreamParser) : Prop :=
  Watched.erases data = true ∧ Aborted (parse data 0x00 parser)

theorem erases_cons {data : List UInt8} (long : 2 ≤ data.length) :
    ∃ command wcc rest, data = command :: wcc :: rest ∧
      Watched.erases data = (isWriteCommand command || isEraseWriteCommand command) := by
  match data, long with
  | command :: wcc :: rest, _ => exact ⟨command, wcc, rest, rfl, by simp [Watched.erases]⟩

theorem plainStart_erases {data : List UInt8} (erases : Watched.erases data = true)
    (long : 2 ≤ data.length) (parser : DataStreamParser) :
    (plainStart data parser).screen.fields = [] ∧
      (plainStart data parser).screen.fieldStarts = SortedSet.empty := by
  obtain ⟨command, wcc, rest, rfl, writes⟩ := erases_cons long
  have write := writes.symm.trans erases
  unfold plainStart loopStart
  simp only [prepare, write, if_true]
  let screen := prepareScreen false parser.screen
  have same := applyWcc_caches wcc (screen.erased (command :: wcc :: rest))
  exact ⟨same.fields.trans (erased_fields _ _), same.starts.trans (erased_fieldStarts _ _)⟩

theorem plainStart_keeps {data : List UInt8} {parser : DataStreamParser}
    (erases : Watched.erases data = false) (current : parser.screen.FieldsCurrent) :
    (plainStart data parser).screen.FieldsCurrent := by
  have prepared : (prepareScreen false parser.screen).FieldsCurrent := current
  match data with
  | [] => exact prepared
  | [_] => exact prepared
  | command :: wcc :: rest =>
      have plain : (isWriteCommand command || isEraseWriteCommand command) = false := by
        simpa [Watched.erases] using erases
      unfold plainStart loopStart
      simp only [prepare, plain, Bool.false_eq_true, if_false]
      show (ScreenBuffer.applyWcc command _).FieldsCurrent
      unfold ScreenBuffer.applyWcc
      split
      · exact prepared
      · exact prepared

theorem plainStart_suspended (data : List UInt8) (parser : DataStreamParser) :
    (plainStart data parser).screen.suspendFieldDetection =
      parser.screen.suspendFieldDetection := by
  unfold plainStart loopStart
  split
  · split
    · refine (applyWcc_caches _ _).suspended.trans ?_
      exact erased_suspended _ _
    · exact (applyWcc_caches _ _).suspended
  · rfl

theorem along_spares {list : List ScreenChange} {screen : ScreenBuffer}
    (none : list.any ScreenChange.erases = false) :
    Along change (fun next screen => screen.Spares next) list screen := by
  induction list generalizing screen with
  | nil => trivial
  | cons next list ih =>
      rw [List.any_cons, Bool.or_eq_false_iff] at none
      refine ⟨?_, ih none.2⟩
      cases next with
      | eraseCell position => cases none.1
      | _ => trivial

/-- Without fields there is nothing to spare, and no erase brings any. -/
theorem along_spares_blank {list : List ScreenChange} {screen : ScreenBuffer}
    (valid : screen.Valid) (others : list.any ScreenBuffer.startsField = false)
    (fields : screen.fields = [])
    (starts : screen.fieldStarts = SortedSet.empty) :
    Along change (fun next screen => screen.Spares next) list screen ∧
      (screen.changes list).fields = [] ∧
        (screen.changes list).fieldStarts = SortedSet.empty := by
  induction list generalizing screen with
  | nil => exact ⟨trivial, fields, starts⟩
  | cons next list ih =>
      rw [List.any_cons, Bool.or_eq_false_iff] at others
      have step : screen.Spares next ∧ (screen.change next).fields = [] ∧
          (screen.change next).fieldStarts = SortedSet.empty := by
        cases next with
        | setAttribute attr => cases others.1
        | setPosition row col => exact ⟨trivial, fields, starts⟩
        | insertByte byte =>
            have same : SameFields screen (screen.insertByte byte) := sameFields_insertByte byte
            exact ⟨trivial, same.fields.trans fields, same.starts.trans starts⟩
        | setExtended attrType attrValue position =>
            have same : SameFields screen
                (screen.setExtendedAttributeSfe attrType attrValue position) :=
              sameFields_setExtended attrType attrValue position
            exact ⟨trivial, same.fields.trans fields, same.starts.trans starts⟩
        | firstInput =>
            simp only [change, moveCursorToFirstInputField]
            split <;> exact ⟨trivial, fields, starts⟩
        | programTab =>
            simp only [change, programTab, moveCursorToNextInputField]
            split <;> exact ⟨trivial, fields, starts⟩
        | eraseCell position =>
            have uncovered : screen.Spares (.eraseCell position) := by
              intro _ field member
              rw [fields] at member
              cases member
            refine ⟨uncovered, ?_, (eraseCell_fieldStarts screen position).trans starts⟩
            by_cases detects : screen.RunsDetection (.eraseCell position)
            · have current := detects.current valid
              unfold FieldsCurrent detectedFields at current
              rw [current, eraseCell_fieldStarts, starts]
              rfl
            · exact (eraseCell_sameMarks detects uncovered).fields.trans fields
      obtain ⟨later, blank⟩ := ih (valid.change next) others.2 step.2.1 step.2.2
      exact ⟨⟨step.1, later⟩, blank⟩

theorem repeatChanges_erases (byte : UInt8) (count : Nat) :
    (repeatChanges byte count).any ScreenChange.erases = false := by
  induction count with
  | zero => rfl
  | succ count ih =>
      rw [repeatChanges, List.any_append, ih, Bool.or_false]
      unfold dataChanges
      split <;> rfl

theorem pairChanges_erases (pairs : List (UInt8 × UInt8)) :
    (pairs.flatMap pairChanges).any ScreenChange.erases = false := by
  rw [List.any_flatMap, List.any_eq_false]
  intro pair _
  unfold pairChanges
  split
  · exact nofun
  · split <;> exact nofun

theorem nextItem_eua {byte high low : UInt8} {operands : List UInt8}
    (found : nextItem byte operands = some (.eua high low)) :
    ∃ rest, byte = 0x12 ∧ operands = high :: low :: rest := by
  unfold nextItem at found
  split at found
  case h_6 =>
      cases found
      exact ⟨_, rfl, rfl⟩
  case h_10 => split at found <;> cases found
  case h_11 => split at found <;> cases found
  all_goals cases found

theorem roundChanges_erases {parser : DataStreamParser} (nothing : ¬ parser.AsksForFields) :
    parser.roundChanges.any ScreenChange.erases = false := by
  unfold roundChanges
  cases split : parser.data.drop parser.parserPos with
  | nil => rfl
  | cons byte operands =>
      simp only
      by_cases mf : byte = 0x2C
      · rw [if_pos mf]
        split
        · rfl
        · rw [List.any_map, List.any_eq_false]
          exact fun _ _ => nofun
      by_cases structured : byte = 0x88
      · rw [if_neg mf, if_pos structured]
        exact pairChanges_erases _
      rw [if_neg mf, if_neg structured]
      cases found : nextItem byte operands with
      | none => rfl
      | some item =>
          cases item with
          | data byte =>
              simp only [Item.changes, dataChanges]
              split <;> rfl
          | sba high low => rfl
          | sf attr => rfl
          | sa attrType attrValue => rfl
          | sfe pairs =>
              simp only [Item.changes, List.any_append, pairChanges_erases]
              split <;> rfl
          | ra high low charToRepeat =>
              simp only [Item.changes, List.any_append, repeatChanges_erases]
              rfl
          | eua high low =>
              obtain ⟨rest, rfl, rfl⟩ := nextItem_eua found
              have at' : ∀ index, parser.data[parser.parserPos + index]? =
                  (0x12 :: high :: low :: rest : List UInt8)[index]? := by
                intro index
                rw [← List.getElem?_drop, split]
              have none : parser.screen.cellsUpTo (parser.screen.targetPosition
                  (decodeAddress parser.addressingMode high low) parser.addressingMode) = 0 := by
                by_contra some
                exact nothing (.inr (.inr ⟨at' 0, high, low, at' 1, at' 2, some⟩))
              simp only [Item.changes, none]
              rfl
          | ge graphicByte =>
              simp only [Item.changes, dataChanges]
              split <;> rfl
          | ic => rfl
          | pt => rfl

theorem LooksUpFirst.loop_spares {data : List UInt8} {parser reached : DataStreamParser}
    (first : LooksUpFirst data parser) {count : Nat}
    (rounds : afterRounds (plainRound data parser) count (plainStart data parser) =
      some reached)
    (valid : reached.screen.Valid) (positioned : Positioned reached)
    (blank : Unstarted data parser count →
      reached.screen.fields = [] ∧ reached.screen.fieldStarts = SortedSet.empty)
    (fuel : Nat) :
    Along change (fun next screen => screen.Spares next)
      (loopChanges (recordSnapshot (prepare false data parser)) fuel reached)
      reached.screen := by
  induction fuel generalizing count reached with
  | zero => trivial
  | succ fuel ih =>
      rw [loopChanges, along_append]
      constructor
      · by_cases asks : reached.AsksForFields
        · have unstarted : Unstarted data parser count := by
            intro before below earlier early
            by_contra started
            exact first.order below early rounds (by simpa using started) asks
          have none := asks.startsNone
          rw [startsField_eq] at none
          obtain ⟨fields, starts⟩ := blank unstarted
          exact (along_spares_blank valid none fields starts).1
        · exact along_spares (roundChanges_erases asks)
      · cases round : parseRound (recordSnapshot (prepare false data parser)) reached with
        | error fault after => trivial
        | ok result after =>
            cases result with
            | some exit => trivial
            | none =>
                have moved := parseRound_goesOn valid positioned round
                show Along change _ _ (reached.screen.changes reached.roundChanges)
                rw [← moved]
                refine ih (afterRounds_next rounds round) (parseRound_valid valid round)
                  ((parseRound_progress _).keeps positioned round) fun unstarted => ?_
                have none := unstarted count (Nat.lt_succ_self count) reached rounds
                rw [startsField_eq] at none
                obtain ⟨fields, starts⟩ :=
                  blank fun step below => unstarted step (Nat.lt_succ_of_lt below)
                rw [moved]
                exact (along_spares_blank valid none fields starts).2

theorem sinceDetection_of_along {Condition : ScreenChange → ScreenBuffer → Prop}
    {list : List ScreenChange} {screen : ScreenBuffer}
    (along : Along change Condition list screen) :
    SinceDetection (Along change Condition) list screen := by
  induction list generalizing screen with
  | nil => trivial
  | cons next list ih =>
      rw [SinceDetection]
      split
      · exact ih along.2
      · exact along

theorem parsePlain_changes {data : List UInt8} {parser : DataStreamParser}
    (valid : parser.screen.Valid) (long : 2 ≤ data.length)
    (kept : Watched.erases data = true → ¬ Aborted (parsePlain data parser)) :
    (finalState (parsePlain data parser)).screen =
      (plainStart data parser).screen.changes (plainChanges data parser) := by
  obtain ⟨here, positioned⟩ := loopStart_before valid false data
  have looped := parseRecord_loop (rfl : (prepare false data parser).parserPos = 0) long
  rw [parsePlain_run, looped] at kept ⊢
  obtain ⟨command, wcc, rest, rfl, writes⟩ := erases_cons long
  have data' : (loopStart (prepare false (command :: wcc :: rest) parser)).data =
      command :: wcc :: rest := loopStart_data _
  refine (not_aborted_loop here positioned ?_).trans ?_
  · cases erases : Watched.erases (command :: wcc :: rest) with
    | true => exact .inr (kept erases)
    | false =>
        refine .inl ?_
        unfold recordSnapshot
        rw [writes] at erases
        simp only [prepare, erases, Bool.false_eq_true, if_false]
  · unfold plainChanges plainStart
    rw [data']

theorem aborted_sameExit {R : DataStreamParser → DataStreamParser → Prop}
    {first second : EStateM.Result Fault DataStreamParser ParseExit}
    (same : SameExit R first second) : Aborted first ↔ Aborted second := by
  cases same with
  | ok exit related =>
      constructor
      · rintro ⟨⟩
        exact .rolledBack _
      · rintro ⟨⟩
        exact .rolledBack _
  | error fault related => exact aborted_error_iff.trans aborted_error_iff.symm

theorem parsePlain_aborted_iff {data : List UInt8} {parser : DataStreamParser}
    (long : bulkThreshold < data.length) (alike : LooksAlikeThroughout data parser) :
    Aborted (parsePlain data parser) ↔ Aborted (parse data 0x00 parser) := by
  have same := parseRecord_twins long alike
  have bulk : decide (bulkThreshold < data.length) = true := decide_eq_true long
  rw [parsePlain_run, parse_tn3270, bulk]
  exact (aborted_sameExit same).trans ⟨aborted_mapState, aborted_of_mapState⟩

theorem parsePlain_current {data : List UInt8} {parser : DataStreamParser}
    (valid : parser.screen.Valid) (long : 2 ≤ data.length)
    (erases : Watched.erases data = true) (aborted : Aborted (parsePlain data parser)) :
    (finalState (parsePlain data parser)).screen.FieldsCurrent := by
  obtain ⟨command, wcc, rest, rfl, writes⟩ := erases_cons long
  rw [parsePlain_run] at aborted ⊢
  exact (parseRecord_leaves valid (writes.symm.trans erases) aborted).fields

/-- A record that looks fields up before it starts any leaves the same screen in both
modes exactly when it is rolled back or shows nothing new since the last detection of the
plain path; whatever has been parsed before. -/
theorem bulkMode_agrees_iff {parser : DataStreamParser} (valid : parser.screen.Valid)
    (resumed : parser.screen.suspendFieldDetection = 0)
    (calls : List (List UInt8 × UInt8)) {data : List UInt8}
    (long : bulkThreshold < data.length)
    (first : LooksUpFirst data (afterCalls parser calls))
    (settles : Watched.erases data = true ∨ Settles data (afterCalls parser calls)) :
    ModesAgree (finalState (parse data 0x00 (afterCalls parser calls))).screen
        (finalState (parsePlain data (afterCalls parser calls))).screen ↔
      RolledBack data (afterCalls parser calls) ∨
        SinceDetection ShowsNothingNew (plainChanges data (afterCalls parser calls))
          (plainStart data (afterCalls parser calls)).screen := by
  have valid' := (afterCalls_valid valid calls).1
  have resumed' := (afterCalls_suspended parser calls).trans resumed
  generalize afterCalls parser calls = state at *
  have enough : 2 ≤ data.length := by
    unfold bulkThreshold at long
    omega
  have alike := first.throughout valid' enough
  obtain ⟨lists, screen⟩ := parse_bulk_screen resumed' long alike
  rw [screen, modesAgree_detectFields_iff]
  by_cases aborted : RolledBack data state
  · exact iff_of_true (parsePlain_current valid' enough aborted.1
      ((parsePlain_aborted_iff long alike).mpr aborted.2)) (.inl aborted)
  · have kept : Watched.erases data = true → ¬ Aborted (parsePlain data state) :=
      fun erases plain => aborted ⟨erases, (parsePlain_aborted_iff long alike).mp plain⟩
    obtain ⟨here, positioned⟩ := loopStart_before valid' false data
    rw [parsePlain_changes valid' enough kept, or_iff_right aborted]
    have resumed := (plainStart_suspended data state).trans resumed'
    cases erases : Watched.erases data with
    | true =>
        have blank := plainStart_erases erases enough state
        refine fieldsCurrent_changes_iff here resumed (fun _ => ?_) (sinceDetection_of_along ?_)
        · unfold FieldsCurrent detectedFields
          rw [blank.1, blank.2]
          rfl
        · exact @LooksUpFirst.loop_spares data state (plainStart data state) first 0 rfl here
            positioned (fun _ => blank) _
    | false =>
        have settled := settles.resolve_left (by rw [erases]; exact nofun)
        refine fieldsCurrent_changes_iff here resumed (fun quiet => ?_) settled.spares
        refine plainStart_keeps erases (settled.current.resolve_right ?_)
        rw [quiet]
        exact nofun

theorem looksUpFirst_of_noLookups {data : List UInt8}
    (none : ∀ byte ∈ data, looksUp byte = false) (erases : Watched.erases data = true)
    (parser : DataStreamParser) : LooksUpFirst data parser where
  order := by
    intro first second earlier later _ _ rounds _ asks
    have sameData : later.data = data :=
      afterRounds_invariant (fun holds round => (parseRound_data round).trans holds)
        (loopStart_data _) rounds
    have absent : ∀ {byte}, later.data[later.parserPos]? = some byte →
        looksUp byte = false := by
      intro byte here
      rw [sameData] at here
      exact none byte (List.mem_of_getElem? here)
    rcases asks with here | here | ⟨here, -⟩
    · exact absurd (absent here) (by decide)
    · exact absurd (absent here) (by decide)
    · exact absurd (absent here) (by decide)
  found := .inl erases

/-- Nulls change nothing. -/
theorem loopChanges_nulls {count : Nat} {parser : DataStreamParser}
    (before : Before (List.replicate count 0x00) parser) (snapshot : Option ScreenSnapshot)
    (fuel : Nat) : loopChanges snapshot fuel parser = [] := by
  induction fuel generalizing count parser with
  | zero => rfl
  | succ fuel ih =>
      rw [loopChanges]
      cases count with
      | zero =>
          have ended : parser.hasMore = false := by
            have lengths := congrArg List.length before.split
            simp only [List.length_drop, List.replicate_zero, List.length_nil] at lengths
            simp only [hasMore, decide_eq_false_iff_not]
            omega
          have round : parseRound snapshot parser = .ok (some .finished) parser := by
            rw [parseRound_run, ended]
            rfl
          rw [roundChanges_ended ended, round]
          rfl
      | succ count =>
          have null : Before ((Item.data 0x00).encode ++ List.replicate count 0x00) parser :=
            before
          have noSpace : Item.data 0x00 = .data 0x40 →
              (List.replicate count (0x00 : UInt8)).head? ≠ some 0x01 := by
            intro space
            cases space
          obtain ⟨round, next⟩ := null.item (.inl rfl) noSpace snapshot
          have nothing : parser.roundChanges = [] := by
            unfold roundChanges
            rw [before.split]
            rfl
          rw [nothing, round]
          exact ih next

theorem erases_padded (items : List Item) (count : Nat) :
    Watched.erases (padded items count) = true := by
  rw [padded_eq]
  rfl

/-- A field order and nulls. -/
theorem plainChanges_padded (attr : UInt8) (count : Nat) {parser : DataStreamParser}
    (valid : parser.screen.Valid) :
    ∃ row col, plainChanges (padded [.sf attr] count) parser =
      [.setAttribute attr, .setPosition row col] := by
  have data : padded [.sf attr] count =
      0xF5 :: 0xC3 :: 0x1D :: attr :: List.replicate count 0x00 := padded_eq _ _
  rw [data]
  have before : Before (0x1D :: attr :: List.replicate count 0x00)
      (plainStart (0xF5 :: 0xC3 :: 0x1D :: attr :: List.replicate count 0x00) parser) :=
    startWrite_before valid false 0xF5 0xC3 _
  generalize started : plainStart (0xF5 :: 0xC3 :: 0x1D :: attr ::
    List.replicate count 0x00) parser = start at before
  have field : Before ((Item.sf attr).encode ++ List.replicate count 0x00) start := before
  have first : start.roundChanges =
      [.setAttribute attr, .setPosition start.screen.cursorRow (start.screen.cursorCol + 1)] := by
    unfold roundChanges
    rw [before.split]
    rfl
  refine ⟨start.screen.cursorRow, start.screen.cursorCol + 1, ?_⟩
  show loopChanges _ (roundLimit (0xF5 :: 0xC3 :: 0x1D :: attr ::
    List.replicate count 0x00).length) (plainStart (0xF5 :: 0xC3 :: 0x1D :: attr ::
    List.replicate count 0x00) parser) = _
  rw [started]
  obtain ⟨round, next⟩ := field.item trivial nofun
    (recordSnapshot (prepare false (0xF5 :: 0xC3 :: 0x1D :: attr ::
      List.replicate count 0x00) parser))
  unfold roundLimit
  rw [Nat.succ_mul, ← Nat.add_assoc, loopChanges, first, round]
  exact congrArg (_ ++ ·) (loopChanges_nulls next _ _)

theorem sinceDetection_sf {attr : UInt8} {row col : Nat} {screen : ScreenBuffer}
    (resumed : screen.suspendFieldDetection = 0) :
    SinceDetection ShowsNothingNew [.setAttribute attr, .setPosition row col] screen := by
  have detects : screen.RunsDetection (.setAttribute attr) := resumed
  have quiet : ¬ (screen.change (.setAttribute attr)).RunsDetection (.setPosition row col) :=
    id
  unfold SinceDetection
  rw [detectsAmong, decide_eq_true detects, Bool.true_or, if_pos rfl]
  unfold SinceDetection
  rw [detectsAmong, decide_eq_false quiet]
  constructor
  · intro start pos byte _ _ written
    cases written
  · intro start attrType value _ listed
    cases listed

theorem rolledBack_or_sinceDetection_padded (attr : UInt8) (count : Nat) {parser : DataStreamParser}
    (valid : parser.screen.Valid) (resumed : parser.screen.suspendFieldDetection = 0) :
    RolledBack (padded [.sf attr] count) parser ∨
      SinceDetection ShowsNothingNew (plainChanges (padded [.sf attr] count) parser)
        (plainStart (padded [.sf attr] count) parser).screen := by
  right
  obtain ⟨row, col, changes⟩ := plainChanges_padded attr count valid
  rw [changes]
  exact sinceDetection_sf ((plainStart_suspended _ _).trans resumed)

/-- A record that ends with a field order. -/
theorem bulkMode_agrees_padded :
    ModesAgree (finalState (parse (padded [.sf 0x60] 4093) 0x00 (smallParser 0 0))).screen
      (finalState (parsePlain (padded [.sf 0x60] 4093) (smallParser 0 0))).screen := by
  have resumed : (smallParser 0 0).screen.suspendFieldDetection = 0 := rfl
  have erases := erases_padded [.sf 0x60] 4093
  have noLookup : ∀ byte ∈ encodeItems [.sf 0x60], looksUp byte = false := by
    intro byte member
    rcases List.mem_pair.mp member with rfl | rfl
    · rfl
    · rfl
  have none := padded_noLookups noLookup 4093
  have long : bulkThreshold < (padded [.sf 0x60] 4093).length := by
    rw [padded_length]
    decide
  have nothing := rolledBack_or_sinceDetection_padded 0x60 4093 (smallParser_valid 0 0) resumed
  exact (bulkMode_agrees_iff (smallParser_valid 0 0) resumed [] long
    (looksUpFirst_of_noLookups none erases _) (.inl erases)).mpr nothing

/-- Text behind the last field order is in the field only after a long record. -/
theorem not_bulkMode_agrees_text :
    ¬ ModesAgree
      (finalState (parse (padded [.sf 0x60, .data 0xC1] 4092) 0x00
        (smallParser 0 0))).screen
      (finalState (parsePlain (padded [.sf 0x60, .data 0xC1] 4092)
        (smallParser 0 0))).screen := by
  have long : bulkThreshold < (padded [.sf 0x60, .data 0xC1] 4092).length := by
    rw [padded_length]
    decide
  have framed : Framed ([.sf 0x60, .data 0xC1] ++
      List.replicate 4092 (.data 0x00)) [] :=
    ⟨trivial, nofun, .inl rfl, nofun, framed_nulls 4092⟩
  obtain ⟨lists, screen⟩ := parse_bulk_screen
    (rfl : (smallParser 0 0).screen.suspendFieldDetection = 0) long
    (looksAlike_of_noLookups (padded_noLookups (by decide +kernel) 4092) _)
  rw [screen, modesAgree_detectFields_iff,
    parsePlain_padded (smallParser_valid 0 0) framed]
  unfold ScreenBuffer.FieldsCurrent
  decide +kernel

end DataStreamParser

end Pure3270

import Pure3270.Emulation.ScreenText

/-!
# Trace files

A trace shows what went over the wire as lines of hexadecimal digits with a
direction and an offset.  A long record takes several lines: a line continues
the one above it when it has the same direction and starts where that one ends.
-/

namespace Pure3270

/-- Who sent a record: `<` stands for the host and `>` for the client. -/
inductive Direction where
  | fromHost
  | toHost
  deriving DecidableEq, Repr

/-- A line of data, and also a record with the offset of its first line. -/
structure TraceRecord where
  direction : Direction
  offset : Nat
  data : List UInt8
  deriving DecidableEq, Repr

inductive TraceLine where
  | blank
  | data (line : TraceRecord)
  | other
  deriving DecidableEq, Repr

namespace TraceLine

/-- `strip`. -/
def strip (text : List Char) : List Char :=
  (text.dropWhile isSpace).rdropWhile isSpace

/-- The value of a hexadecimal digit. -/
def hexDigit (ch : Char) : Option Nat :=
  if '0' ≤ ch ∧ ch ≤ '9' then some (ch.toNat - '0'.toNat)
  else if 'a' ≤ ch ∧ ch ≤ 'f' then some (ch.toNat - 'a'.toNat + 10)
  else if 'A' ≤ ch ∧ ch ≤ 'F' then some (ch.toNat - 'A'.toNat + 10)
  else none

def isHexDigit (ch : Char) : Bool := (hexDigit ch).isSome

/-- `int(digits, 16)`. -/
def hexNumber (digits : List Char) : Nat :=
  (digits.filterMap hexDigit).foldl (fun number digit => 16 * number + digit) 0

/-- `bytes.fromhex`; an odd number of digits raises. -/
def hexBytes : List Char → Option (List UInt8)
  | [] => some []
  | [_] => none
  | high :: low :: rest =>
      (hexBytes rest).map (.ofNat (hexNumber [high, low]) :: ·)

def direction : Char → Option Direction
  | '<' => some .fromHost
  | '>' => some .toHost
  | _ => none

/-- `continuation_re`: direction, offset and data.  White space and digits do not
overlap, so each part is as long as it can be. -/
def continuationRe (line : List Char) : Option (Direction × List Char × List Char) := do
  let sign ← line.head?
  let direction ← direction sign
  let beforeOffset := line.tail
  let marked := beforeOffset.dropWhile isSpace
  let digits ← if ['0', 'x'] <+: marked then some (marked.drop 2) else none
  let afterOffset := digits.dropWhile isHexDigit
  let hexData := afterOffset.dropWhile isSpace
  let rest := hexData.dropWhile isHexDigit
  if marked.length < beforeOffset.length ∧ afterOffset.length < digits.length ∧
      hexData.length < afterOffset.length ∧ rest.length < hexData.length ∧
      rest.all isSpace then
    some (direction, digits.takeWhile isHexDigit, hexData.takeWhile isHexDigit)
  else none

/-- What a line of the file is.  Data with a digit too many is treated like a line
of comment. -/
def read (raw : List Char) : TraceLine :=
  let line := strip raw
  if line = [] then .blank
  else
    match continuationRe line with
    | none => .other
    | some (direction, offset, hexData) =>
        match hexBytes hexData with
        | none => .other
        | some bytes => .data ⟨direction, hexNumber offset, bytes⟩

example : read "  < 0x20   F1c3\n".toList =
    .data ⟨.fromHost, 0x20, [0xF1, 0xC3]⟩ := by decide +kernel

example : read "< Write(reset)".toList = .other := by decide +kernel

end TraceLine

/-- The records so far, and the one that may be continued. -/
structure Reassembly where
  records : List TraceRecord
  current : Option TraceRecord

namespace Reassembly

def empty : Reassembly := ⟨[], none⟩

/-- `_flush`. -/
def flush (state : Reassembly) : Reassembly :=
  ⟨state.records ++ state.current.toList, none⟩

/-- The line goes on where the record left off. -/
def Continues (record line : TraceRecord) : Prop :=
  line.direction = record.direction ∧ line.offset = record.offset + record.data.length

instance (record line : TraceRecord) : Decidable (Continues record line) := by
  unfold Continues
  infer_instance

def addLine (state : Reassembly) : TraceLine → Reassembly
  | .blank => state
  | .other => state.flush
  | .data line =>
      match state.current with
      | none => { state with current := some line }
      | some record =>
          if Continues record line then
            { state with current := some { record with data := record.data ++ line.data } }
          else { state.flush with current := some line }

/-- The records of a list of lines. -/
def reassemble (lines : List TraceLine) : List TraceRecord :=
  (lines.foldl addLine empty).flush.records

/-- Lines for the pieces of a record, each with the offset of its first byte. -/
def pieceLines (direction : Direction) (offset : Nat) :
    List (List UInt8) → List TraceLine
  | [] => []
  | piece :: pieces =>
      .data ⟨direction, offset, piece⟩ ::
        pieceLines direction (offset + piece.length) pieces

theorem foldl_pieceLines (records : List TraceRecord) (direction : Direction)
    (offset : Nat) (data : List UInt8) (pieces : List (List UInt8)) :
    (pieceLines direction (offset + data.length) pieces).foldl addLine
        ⟨records, some ⟨direction, offset, data⟩⟩ =
      ⟨records, some ⟨direction, offset, data ++ pieces.flatten⟩⟩ := by
  induction pieces generalizing data with
  | nil =>
      rw [List.flatten_nil, List.append_nil]
      rfl
  | cons piece pieces ih =>
      have continues : Continues ⟨direction, offset, data⟩
          ⟨direction, offset + data.length, piece⟩ := ⟨rfl, rfl⟩
      have longer := ih (data ++ piece)
      rw [List.length_append, ← Nat.add_assoc] at longer
      rw [pieceLines, List.foldl_cons, List.flatten_cons, ← List.append_assoc, ← longer]
      simp only [addLine, if_pos continues]

theorem addLine_start {state : Reassembly}
    (holds : ∀ record, state.current = some record → record.data ≠ [])
    (direction : Direction) (piece : List UInt8) :
    state.addLine (.data ⟨direction, 0, piece⟩) =
      ⟨state.flush.records, some ⟨direction, 0, piece⟩⟩ := by
  obtain ⟨records, current⟩ := state
  cases current with
  | none => simp [addLine, flush]
  | some record =>
      have longer := List.length_pos_of_ne_nil (holds record rfl)
      have breaks : ¬ Continues record ⟨direction, 0, piece⟩ := by
        rintro ⟨-, starts⟩
        simp only at starts
        omega
      simp only [addLine, if_neg breaks]

/-- However the records are cut into pieces, they come back whole. -/
theorem reassemble_pieces {records : List (Direction × List (List UInt8))}
    (nonempty : ∀ record ∈ records, record.2.flatten ≠ []) :
    reassemble (records.flatMap fun record => pieceLines record.1 0 record.2) =
      records.map fun record => ⟨record.1, 0, record.2.flatten⟩ := by
  have collected : ∀ state : Reassembly,
      (∀ record, state.current = some record → record.data ≠ []) →
      ((records.flatMap fun record => pieceLines record.1 0 record.2).foldl addLine
          state).flush.records =
        state.flush.records ++
          records.map fun record => ⟨record.1, 0, record.2.flatten⟩ := by
    induction records with
    | nil => exact fun state _ => (List.append_nil _).symm
    | cons record records ih =>
        intro state holds
        obtain ⟨direction, pieces⟩ := record
        have whole := nonempty _ List.mem_cons_self
        cases pieces with
        | nil => exact absurd rfl whole
        | cons piece pieces =>
            have joined := foldl_pieceLines state.flush.records direction 0 piece pieces
            rw [List.flatMap_cons, List.foldl_append, pieceLines, List.foldl_cons,
              addLine_start holds, joined, ih]
            · simp [flush]
            · exact fun other member => nonempty other (List.mem_cons_of_mem _ member)
            · rintro other ⟨⟩
              exact whole
  exact collected empty fun _ none => by cases none

end Reassembly

/-- `_parse_trace`, with the direction and the offset of each record. -/
def parseTrace (lines : List (List Char)) : List TraceRecord :=
  Reassembly.reassemble (lines.map TraceLine.read)

end Pure3270

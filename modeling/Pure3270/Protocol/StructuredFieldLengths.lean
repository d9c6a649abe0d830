import Pure3270.Foundations.Residues
import Pure3270.Protocol.ScreenChanges
import Pure3270.Transfer.IndFileMessage

/-!
# Lengths of structured fields

A structured field announces its length, and the decoder takes one byte less
than announced behind the type byte.  Five builders count their bytes in three
ways.  What the decoder makes of a field is its handler, the payload it hands
over, and the place where the reader stands when it does.
-/

namespace Pure3270

open Foundations

/-- The methods in the table of structured field handlers. -/
inductive SfHandler where
  | bindSf
  | sfe
  | snaResponseSf
  | queryReplySf
  | printerStatusSf
  | outbound3270dsSf
  | inbound3270dsSf
  | objectDataSf
  | objectControlSf
  | objectPictureSf
  | dataChainSf
  | compressionSf
  | fontControlSf
  | symbolSetSf
  | deviceCharacteristicsSf
  | descriptorSf
  | fileSf
  | indfileSf
  | fontSf
  | pageSf
  | graphicsSf
  | barcodeSf
  deriving DecidableEq, Repr

/-- The table of structured field handlers. -/
def SfHandler.ofType (sfType : UInt8) : Option SfHandler :=
  match sfType with
  | 0x03 => some .bindSf
  | 0x28 => some .sfe
  | 0x01 => some .snaResponseSf
  | 0x81 => some .queryReplySf
  | 0x02 => some .printerStatusSf
  | 0x40 => some .outbound3270dsSf
  | 0x41 => some .inbound3270dsSf
  | 0x42 => some .objectDataSf
  | 0x43 => some .objectControlSf
  | 0x44 => some .objectPictureSf
  | 0x45 => some .dataChainSf
  | 0x46 => some .compressionSf
  | 0x47 => some .fontControlSf
  | 0x48 => some .symbolSetSf
  | 0x49 => some .deviceCharacteristicsSf
  | 0x4A => some .descriptorSf
  | 0x4B => some .fileSf
  | 0xD0 => some .indfileSf
  | 0x4C => some .fontSf
  | 0x4D => some .pageSf
  | 0x4E => some .graphicsSf
  | 0x4F => some .barcodeSf
  | _ => none

namespace DataStreamParser

/-- What a method does with the data of its field.  Those left out only write
log messages. -/
def runSfHandler (handler : SfHandler) (data : List UInt8) : ParserM Unit :=
  match handler with
  | .bindSf => handleBindSf
  | .sfe => handleSfePayload data
  | .snaResponseSf => handleSnaResponseSf data
  | .printerStatusSf => handlePrinterStatusSf data
  | .indfileSf => handleIndfileSf data
  | _ => return

theorem sfHandlers_eq (sfType : UInt8) (data : List UInt8) :
    sfHandlers sfType data =
      match SfHandler.ofType sfType with
      | some handler => runSfHandler handler data
      | none => return := by
  unfold sfHandlers
  split <;> try rfl
  -- the methods that are left only write log messages
  have quiet : ∀ handler, SfHandler.ofType sfType = some handler →
      runSfHandler handler data = (return : ParserM Unit) := by
    intro handler found
    unfold SfHandler.ofType at found
    split at found <;> first | contradiction | (cases found; rfl)
  cases found : SfHandler.ofType sfType with
  | none => rfl
  | some handler => exact (quiet handler found).symm

section Handlers

-- what the methods in the table do
variable (run : SfHandler → List UInt8 → ParserM Unit)

/-- The field body with the given methods. -/
def readBodyWith (length : Nat) : ParserM Unit := do
  match ← attempt readByte with
  | none => return
  | some sfType =>
      let parser ← get
      let dataLen := min (length - 1) parser.remaining
      set { parser with parserPos := parser.parserPos + dataLen }
      match SfHandler.ofType sfType with
      | some handler =>
          swallow (run handler ((parser.data.drop parser.parserPos).take dataLen))
      | none => return

/-- The decoder of structured fields with the given methods. -/
def handleStructuredFieldWith : ParserM Unit := do
  let parser ← get
  if parser.data[parser.parserPos]? = some 0x88 then
    match ← attempt readByte with
    | none => return
    | some _ => readHeader
  else readHeader
where
  readHeader : ParserM Unit := do
    let parser ← get
    if parser.remaining < 3 then skipStructuredField
    else
      match ← attempt readByte with
      | none => skipStructuredField
      | some lengthHigh =>
          match ← attempt readByte with
          | none => skipStructuredField
          | some lengthLow =>
              let length := u16 lengthHigh lengthLow
              let parser ← get
              if parser.remaining + 1000 < length then skipStructuredField
              else if parser.remaining < 1 then skipStructuredField
              else readBodyWith run length

end Handlers

theorem readStructuredFieldBody_eq :
    readStructuredFieldBody = readBodyWith runSfHandler := by
  funext length
  unfold readStructuredFieldBody readBodyWith
  congr 1
  funext result
  cases result with
  | none => rfl
  | some sfType =>
      simp only [sfHandlers_eq]
      cases SfHandler.ofType sfType <;> rfl

/-- The decoder runs the methods of the parser. -/
theorem handleStructuredField_eq :
    handleStructuredField = handleStructuredFieldWith runSfHandler := by
  unfold handleStructuredField handleStructuredFieldWith
    handleStructuredField.readHeader handleStructuredFieldWith.readHeader
  exact readStructuredFieldBody_eq ▸ rfl

/-- The parser behind the type and `count` bytes of data; the mirror is only
behind the type. -/
def pastBody (parser : DataStreamParser) (count : Nat) : DataStreamParser :=
  { parser.read 1 with parserPos := parser.parserPos + 1 + count }

section Handlers

variable {run : SfHandler → List UInt8 → ParserM Unit}

theorem readBodyWith_at {length : Nat} {sfType : UInt8} {body : List UInt8}
    {parser : DataStreamParser} (mirrored : parser.pos ≤ parser.parserPos)
    (split : parser.data.drop parser.parserPos = sfType :: body) :
    readBodyWith run length parser =
      (match SfHandler.ofType sfType with
        | some handler => swallow (run handler (body.take (length - 1)))
        | none => return)
        (parser.pastBody (min (length - 1) body.length)) := by
  have later := drop_succ split
  have remains : (parser.read 1).remaining = body.length := remaining_eq later
  have payload : ((parser.read 1).data.drop (parser.read 1).parserPos).take
      (min (length - 1) (parser.read 1).remaining) = body.take (length - 1) := by
    rw [remains]
    show (parser.data.drop (parser.parserPos + 1)).take _ = _
    rw [later, ← List.take_take, List.take_length]
  unfold readBodyWith
  rw [run_bind_ok (attempt_at (at_of_split split) mirrored)]
  simp only
  rw [run_get_bind, payload, remains]
  cases SfHandler.ofType sfType <;> rfl

theorem readHeader_at {lengthHigh lengthLow sfType : UInt8} {body : List UInt8}
    {parser : DataStreamParser} (mirrored : parser.pos ≤ parser.parserPos)
    (split : parser.data.drop parser.parserPos =
      lengthHigh :: lengthLow :: sfType :: body) :
    handleStructuredFieldWith.readHeader run parser =
      (if body.length + 1 + 1000 < u16 lengthHigh lengthLow then skipStructuredField
        else readBodyWith run (u16 lengthHigh lengthLow)) (parser.read 2) := by
  have first := at_of_split split
  have second : (parser.read 1).At (lengthLow :: sfType :: body) := first.tail rfl rfl
  have third : parser.data.drop (parser.parserPos + 1 + 1) = sfType :: body := by
    rw [← List.drop_drop, drop_succ split]
    rfl
  have left : ((parser.read 1).read 1).remaining = body.length + 1 :=
    @remaining_eq ((parser.read 1).read 1) _ third
  have remains := remaining_eq split
  simp only [List.length_cons] at remains
  unfold handleStructuredFieldWith.readHeader
  rw [run_get_bind, if_neg (by omega), run_bind_ok (attempt_at first mirrored)]
  simp only
  rw [run_bind_ok (attempt_at second (Nat.le_refl _))]
  simp only
  rw [run_get_bind, left]
  by_cases long : body.length + 1 + 1000 < u16 lengthHigh lengthLow
  · rw [if_pos long, if_pos long]
    rfl
  · rw [if_neg long, if_neg long, if_neg (by omega)]
    rfl

end Handlers

/-- A header either runs no method, or it runs one with the reader behind the
payload and the three bytes before it. -/
theorem readHeader_outcome {parser : DataStreamParser}
    (mirrored : parser.pos ≤ parser.parserPos) :
    (∃ after, ∀ run, handleStructuredFieldWith.readHeader run parser = .ok () after) ∨
      ∃ handler payload after,
        (∀ run, handleStructuredFieldWith.readHeader run parser =
          swallow (run handler payload) after) ∧
        after.parserPos = parser.parserPos + 3 + payload.length := by
  have short : parser.remaining < 3 →
      ∃ after, ∀ run, handleStructuredFieldWith.readHeader run parser = .ok () after := by
    intro few
    refine ⟨finalState (skipStructuredField parser), fun run => ?_⟩
    unfold handleStructuredFieldWith.readHeader
    rw [run_get_bind, if_pos few]
    rfl
  match split : parser.data.drop parser.parserPos with
  | [] => exact .inl (short (by simp [remaining_eq split]))
  | [_] => exact .inl (short (by simp [remaining_eq split]))
  | [_, _] => exact .inl (short (by simp [remaining_eq split]))
  | lengthHigh :: lengthLow :: sfType :: body =>
      by_cases long : body.length + 1 + 1000 < u16 lengthHigh lengthLow
      · refine .inl ⟨finalState (skipStructuredField (parser.read 2)), fun run => ?_⟩
        rw [readHeader_at mirrored split, if_pos long]
        rfl
      · have third : (parser.read 2).data.drop (parser.read 2).parserPos =
            sfType :: body := by
          show parser.data.drop (parser.parserPos + 2) = _
          rw [← List.drop_drop, split]
          rfl
        let finish := (parser.read 2).pastBody
          (min (u16 lengthHigh lengthLow - 1) body.length)
        have ran : ∀ run, handleStructuredFieldWith.readHeader run parser =
            (match SfHandler.ofType sfType with
              | some handler =>
                  swallow (run handler (body.take (u16 lengthHigh lengthLow - 1)))
              | none => return) finish := by
          intro run
          rw [readHeader_at mirrored split, if_neg long,
            readBodyWith_at (Nat.le_refl _) third]
        cases found : SfHandler.ofType sfType with
        | none =>
            refine .inl ⟨finish, fun run => ?_⟩
            rw [ran run, found]
            rfl
        | some handler =>
            refine .inr ⟨handler, body.take (u16 lengthHigh lengthLow - 1), finish,
              fun run => ?_, ?_⟩
            · rw [ran run, found]
            · rw [List.length_take]
              rfl

/-- The decoder runs the method for the type, whatever that does, on exactly the
payload, with the reader `size` bytes on. -/
def Dispatches (sfType : UInt8) (payload : List UInt8) (size : Nat)
    (parser : DataStreamParser) : Prop :=
  ∃ handler after, SfHandler.ofType sfType = some handler ∧
    after.data = parser.data ∧ after.parserPos = parser.parserPos + size ∧
      ∀ run, handleStructuredFieldWith run parser = swallow (run handler payload) after

/-- What a decoder hands over can be seen by a method that records it. -/
theorem handedOver_unique {handler handler' : SfHandler} {payload payload' : List UInt8}
    {after after' : DataStreamParser}
    (same : ∀ run : SfHandler → List UInt8 → ParserM Unit,
      swallow (run handler payload) after = swallow (run handler' payload') after') :
    payload = payload' ∧ after.parserPos = after'.parserPos := by
  have recorded := same fun _ data => modify fun parser => { parser with data }
  injection recorded with _ states
  injection states with _ _ _ _ _ _ _ data _ parserPos
  exact ⟨data, parserPos⟩

theorem handedOver_ne_ok {handler : SfHandler} {payload : List UInt8}
    {after finish : DataStreamParser} :
    ¬ ∀ run : SfHandler → List UInt8 → ParserM Unit,
      swallow (run handler payload) after = .ok () finish := by
  intro same
  have first := same fun _ _ => modify fun parser => { parser with data := [] }
  have second := same fun _ _ => modify fun parser => { parser with data := [0x00] }
  have states := first.trans second.symm
  injection states with _ states
  injection states with _ _ _ _ _ _ _ data
  cases data

/-- A field as all builders write it: the introducer, the announced length in two
bytes, the type and the payload. -/
def frame (length : Nat) (sfType : UInt8) (payload : List UInt8) : List UInt8 :=
  0x88 :: UInt8.ofNat ((length >>> 8) &&& 0xFF) :: UInt8.ofNat (length &&& 0xFF) ::
    sfType :: payload

theorem lengthBytes_toNat (length : Nat) :
    (UInt8.ofNat ((length >>> 8) &&& 0xFF)).toNat = length / 256 % 256 ∧
      (UInt8.ofNat (length &&& 0xFF)).toNat = length % 256 := by
  rw [toNat_lowEight, toNat_lowEight, Nat.shiftRight_eq_div_pow]
  exact ⟨rfl, rfl⟩

theorem u16_lengthBytes (length : Nat) :
    u16 (UInt8.ofNat ((length >>> 8) &&& 0xFF)) (UInt8.ofNat (length &&& 0xFF)) =
      length % 65536 := by
  obtain ⟨high, low⟩ := lengthBytes_toNat length
  have joined : (length / 256 % 256) <<< 8 ||| length % 256 =
      length / 256 % 256 * 2 ^ 8 + length % 256 := join_bits (Nat.mod_lt _ (Nat.succ_pos 255))
  unfold u16
  rw [high, low, joined]
  omega

/-- The reader stands at a field with `rest` behind it, or behind the introducer
of the field, which is where the order loop calls the decoder. -/
structure Stands (introducerRead : Bool) (field rest : List UInt8)
    (parser : DataStreamParser) : Prop where
  mirrored : parser.pos ≤ parser.parserPos
  split : parser.data.drop parser.parserPos =
    (if introducerRead then field.tail else field) ++ rest

/-- The bytes of a field that the decoder has still to read. -/
def leftOf (introducerRead : Bool) (field : List UInt8) : Nat :=
  if introducerRead then field.length - 1 else field.length

section Frame

variable {length : Nat} {sfType : UInt8} {payload rest : List UInt8}
  {parser : DataStreamParser} {introducerRead : Bool}

/-- The decoder comes to the length of a field, unless it takes the first byte of
the length for an introducer. -/
theorem handleStructuredFieldWith_frame
    (stands : Stands introducerRead (frame length sfType payload) rest parser)
    (plain : introducerRead = true → length / 256 % 256 ≠ 0x88) :
    ∃ header : DataStreamParser,
      (∀ run, handleStructuredFieldWith run parser =
        handleStructuredFieldWith.readHeader run header) ∧
      header.pos ≤ header.parserPos ∧ header.data = parser.data ∧
      header.data.drop header.parserPos = (frame length sfType payload).tail ++ rest ∧
      header.parserPos + (payload.length + 3) =
        parser.parserPos + leftOf introducerRead (frame length sfType payload) := by
  have next : parser.data[parser.parserPos]? =
      ((if introducerRead then (frame length sfType payload).tail
        else frame length sfType payload) ++ rest).head? := by
    rw [← stands.split, List.head?_drop]
  cases introducerRead with
  | false =>
      have here : parser.data.drop parser.parserPos =
          0x88 :: ((frame length sfType payload).tail ++ rest) := stands.split
      refine ⟨parser.read 1, fun run => ?_, Nat.le_refl _, rfl, drop_succ here, ?_⟩
      · have introducer : parser.data[parser.parserPos]? = some 0x88 := next
        unfold handleStructuredFieldWith
        rw [run_get_bind, if_pos introducer,
          run_bind_ok (attempt_at (at_of_split here) stands.mirrored)]
      · simp only [leftOf, frame, read, List.length_cons, if_false, Bool.false_eq_true]
        omega
  | true =>
      refine ⟨parser, fun run => ?_, stands.mirrored, rfl, stands.split, ?_⟩
      · have different : ¬ UInt8.ofNat ((length >>> 8) &&& 0xFF) = 0x88 := by
          intro same
          have value := congrArg UInt8.toNat same
          rw [(lengthBytes_toNat length).1] at value
          exact plain rfl value
        unfold handleStructuredFieldWith
        rw [run_get_bind, next, if_neg (by simpa [frame] using different)]
      · simp only [leftOf, frame, List.length_cons, if_true]
        omega

/-- The first byte of a length that is taken for an introducer: whatever is
handed over ends a byte too far for its size. -/
theorem not_dispatches_of_doubled
    (stands : Stands true (frame length sfType payload) rest parser)
    (doubled : length / 256 % 256 = 0x88) :
    ¬ Dispatches sfType payload (leftOf true (frame length sfType payload)) parser := by
  have same : UInt8.ofNat ((length >>> 8) &&& 0xFF) = 0x88 := by
    apply UInt8.toNat_inj.mp
    rw [(lengthBytes_toNat length).1]
    exact doubled
  have here : parser.data.drop parser.parserPos =
      0x88 :: ((frame length sfType payload).tail.tail ++ rest) := by
    rw [← same]
    exact stands.split
  have ran : ∀ run, handleStructuredFieldWith run parser =
      handleStructuredFieldWith.readHeader run (parser.read 1) := by
    intro run
    unfold handleStructuredFieldWith
    rw [run_get_bind, if_pos (at_of_split here).head,
      run_bind_ok (attempt_at (at_of_split here) stands.mirrored)]
  rintro ⟨handler, after, -, -, moved, handed⟩
  rcases @readHeader_outcome (parser.read 1) (Nat.le_refl _) with
    ⟨finish, none⟩ | ⟨other, taken, finish, some, ends⟩
  · exact handedOver_ne_ok fun run => (handed run).symm.trans ((ran run).trans (none run))
  · obtain ⟨rfl, places⟩ := handedOver_unique fun run =>
      (handed run).symm.trans ((ran run).trans (some run))
    simp only [leftOf, frame, read, List.length_cons, if_true] at moved ends
    omega

/-- A field is dispatched properly exactly when its type has a handler, its length
counts the type and the payload or more than is left, and the length is not taken
for an introducer. -/
theorem dispatches_frame_iff
    (stands : Stands introducerRead (frame length sfType payload) rest parser)
    (small : length % 65536 ≤ payload.length + rest.length + 1001) :
    Dispatches sfType payload (leftOf introducerRead (frame length sfType payload))
        parser ↔
      (SfHandler.ofType sfType).isSome ∧
        (length % 65536 - 1 = payload.length ∨
          (payload.length < length % 65536 ∧ rest = [])) ∧
        (introducerRead = true → length / 256 % 256 ≠ 0x88) := by
  by_cases plain : introducerRead = true → length / 256 % 256 ≠ 0x88
  · obtain ⟨header, begins, mirrored, data, split, places⟩ :=
      handleStructuredFieldWith_frame stands plain
    let finish := (header.read 2).pastBody
      (min (length % 65536 - 1) (payload ++ rest).length)
    have ran : ∀ run, handleStructuredFieldWith run parser =
        (match SfHandler.ofType sfType with
          | some handler =>
              swallow (run handler ((payload ++ rest).take (length % 65536 - 1)))
          | none => return) finish := by
      intro run
      have third : (header.read 2).data.drop (header.read 2).parserPos =
          sfType :: (payload ++ rest) := by
        show header.data.drop (header.parserPos + 2) = _
        rw [← List.drop_drop, split]
        rfl
      have fits : ¬ (payload ++ rest).length + 1 + 1000 < length % 65536 := by
        rw [List.length_append]
        omega
      have read := @readHeader_at run _ _ sfType (payload ++ rest) header mirrored split
      rw [u16_lengthBytes, if_neg fits] at read
      rw [begins run, read, readBodyWith_at (Nat.le_refl _) third]
    constructor
    · rintro ⟨handler, after, found, -, moved, handed⟩
      obtain ⟨taken, -⟩ := handedOver_unique fun run =>
        (handed run).symm.trans (by rw [ran run, found])
      refine ⟨by rw [found]; rfl, ?_, plain⟩
      have lengths := congrArg List.length taken
      rw [List.length_take, List.length_append] at lengths
      by_cases nothing : rest = []
      · subst nothing
        simp only [List.length_nil] at lengths
        by_cases unsized : length % 65536 = 0
        · exact .inl (by omega)
        · exact .inr ⟨by omega, rfl⟩
      · have some := List.length_pos_iff.mpr nothing
        omega
    · rintro ⟨listed, counted, -⟩
      obtain ⟨handler, found⟩ := Option.isSome_iff_exists.mp listed
      have taken : (payload ++ rest).take (length % 65536 - 1) = payload := by
        rcases counted with exactly | ⟨beyond, rfl⟩
        · rw [exactly, List.take_left]
        · rw [List.append_nil]
          exact List.take_of_length_le (by omega)
      have size := congrArg List.length taken
      rw [List.length_take] at size
      refine ⟨handler, finish, found, data, ?_, fun run => ?_⟩
      · show header.parserPos + 2 + 1 + _ = _
        omega
      · rw [ran run, found]
        simp only [taken]
  · obtain ⟨read, doubled⟩ := Classical.not_imp.mp plain
    subst read
    constructor
    · exact fun dispatched =>
        (not_dispatches_of_doubled stands (not_not.mp doubled) dispatched).elim
    · exact fun ⟨_, _, allowed⟩ => (plain allowed).elim

end Frame

/-- `build_query_reply_sf`.  A length beyond two bytes raises. -/
def buildQueryReplySf (queryType : UInt8) (data : List UInt8) : Option (List UInt8) :=
  let payload := queryType :: data
  let lengthVal := 1 + payload.length
  if lengthVal < 65536 then some (frame lengthVal 0x93 payload) else none

/-- The data of `build_device_type_query_reply`.  The name takes three bytes more
than it says. -/
def deviceTypeReplyData : List UInt8 :=
  [0x84, 0x01, 0x0A] ++
    [0x49, 0x42, 0x4D, 0x2D, 0x33, 0x32, 0x37, 0x38, 0x2D, 0x32, 0x00, 0x00, 0x00] ++
    [0x02]

def buildDeviceTypeQueryReply : List UInt8 :=
  let lengthVal := 3 + deviceTypeReplyData.length
  frame lengthVal 0x93 deviceTypeReplyData

/-- `build_characteristics_query_reply`.  The type of the reply is not counted. -/
def buildCharacteristicsQueryReply : List UInt8 :=
  let replyData := [0x00, 0x00]
  let lengthVal := 3 + replyData.length
  frame lengthVal 0x93 ([0x81] ++ replyData)

/-- `build_printer_status_sf`.  The length counts the bytes of the length, and the
type with the payload. -/
def buildPrinterStatusSf (statusCode : UInt8) : List UInt8 :=
  let length := [0x02, statusCode].length + 2
  frame length 0x02 [statusCode]

end DataStreamParser

open DataStreamParser

/-- A call of one of the builders. -/
inductive SfBuilder where
  | queryReply (queryType : UInt8) (data : List UInt8)
  | deviceTypeQueryReply
  | characteristicsQueryReply
  | printerStatus (statusCode : UInt8)
  | indFile (message : IndFileMessage)

namespace SfBuilder

/-- The field that is built. -/
def build : SfBuilder → Option (List UInt8)
  | queryReply queryType data => buildQueryReplySf queryType data
  | deviceTypeQueryReply => some buildDeviceTypeQueryReply
  | characteristicsQueryReply => some buildCharacteristicsQueryReply
  | printerStatus statusCode => some (buildPrinterStatusSf statusCode)
  | indFile message => some message.structuredField

def sfType : SfBuilder → UInt8
  | queryReply .. | deviceTypeQueryReply | characteristicsQueryReply => 0x93
  | printerStatus _ => 0x02
  | indFile _ => 0xD0

/-- What the builder puts behind the type. -/
def payload : SfBuilder → List UInt8
  | queryReply queryType data => queryType :: data
  | deviceTypeQueryReply => deviceTypeReplyData
  | characteristicsQueryReply => [0x81, 0x00, 0x00]
  | printerStatus statusCode => [statusCode]
  | indFile message => message.toBytes

/-- The length the builder announces, before it is cut to two bytes. -/
def announced : SfBuilder → Nat
  | queryReply _ data => data.length + 2
  | deviceTypeQueryReply => 20
  | characteristicsQueryReply => 5
  | printerStatus _ => 4
  | indFile message => message.payload.length + 4

/-- The last field of a record with a registered type, whose length fits in two
bytes and is not taken for an introducer. -/
def Fits (introducerRead : Bool) (rest : List UInt8) : SfBuilder → Prop
  | printerStatus _ => rest = []
  | indFile message =>
      rest = [] ∧ message.payload.length ≤ 65531 ∧
        (introducerRead = true → (message.payload.length + 4) / 256 ≠ 0x88)
  | _ => False

theorem build_eq_frame {builder : SfBuilder} {field : List UInt8}
    (built : builder.build = some field) :
    field = frame builder.announced builder.sfType builder.payload := by
  cases builder with
  | queryReply queryType data =>
      simp only [build, buildQueryReplySf, List.length_cons] at built
      split at built
      · cases built
        rw [Nat.add_comm]
        rfl
      · cases built
  | _ =>
      cases built
      rfl

/-- The length of `build_query_reply_sf` is the one the decoder expects, but the
type of the field is not in the table. -/
theorem queryReply_counted (queryType : UInt8) (data : List UInt8) :
    (queryReply queryType data).announced - 1 =
      (queryReply queryType data).payload.length := rfl

/-- A built field is dispatched with its payload, and up to its end, exactly when
it is a printer status or a message of at most 65532 bytes and nothing follows. -/
theorem dispatches_iff {builder : SfBuilder} {field rest : List UInt8}
    {parser : DataStreamParser} {introducerRead : Bool}
    (built : builder.build = some field)
    (stands : Stands introducerRead field rest parser) :
    Dispatches builder.sfType builder.payload (leftOf introducerRead field) parser ↔
      builder.Fits introducerRead rest := by
  obtain rfl := build_eq_frame built
  have small : builder.announced % 65536 ≤
      builder.payload.length + rest.length + 1001 := by
    have cut := Nat.mod_le builder.announced 65536
    have lengths : builder.announced ≤ builder.payload.length + 3 := by
      cases builder <;>
        simp [announced, payload, deviceTypeReplyData, IndFileMessage.toBytes]
    omega
  rw [dispatches_frame_iff stands small]
  cases builder with
  | printerStatus statusCode =>
      simp [sfType, announced, payload, Fits, SfHandler.ofType]
  | indFile message =>
      simp only [sfType, announced, payload, Fits, SfHandler.ofType,
        IndFileMessage.toBytes, List.length_cons, Option.isSome_some, true_and]
      generalize message.payload.length = size
      constructor
      · rintro ⟨exactly | ⟨beyond, nothing⟩, plain⟩
        · omega
        · refine ⟨nothing, by omega, fun read => ?_⟩
          have high := plain read
          omega
      · rintro ⟨nothing, short, plain⟩
        refine ⟨.inr ⟨by omega, nothing⟩, fun read => ?_⟩
        have high := plain read
        omega
  | _ => simp [sfType, Fits, SfHandler.ofType]

/-- A message at the end of a record, behind its introducer. -/
theorem dispatches_lastMessage :
    Dispatches 0xD0 [0x02, 0xC1] 5
      { smallParser 0 0 with data := [0x00, 0x05, 0xD0, 0x02, 0xC1] } :=
  (@dispatches_iff (.indFile ⟨0x02, [0xC1]⟩) _ [] _ true rfl ⟨Nat.le_refl 0, rfl⟩).mpr
    ⟨rfl, by decide, by decide⟩

/-- A printer status takes two bytes of a field order behind it. -/
theorem not_dispatches :
    ¬ ∀ (builder : SfBuilder) (field rest : List UInt8) (parser : DataStreamParser)
        (introducerRead : Bool), builder.build = some field →
      Stands introducerRead field rest parser →
        Dispatches builder.sfType builder.payload (leftOf introducerRead field)
          parser := by
  intro claimed
  let parser : DataStreamParser :=
    { smallParser 0 0 with data := [0x88, 0x00, 0x04, 0x02, 0x00, 0x1D, 0x60] }
  have stands : Stands false (frame 4 0x02 [0x00]) [0x1D, 0x60] parser :=
    ⟨Nat.le_refl 0, rfl⟩
  have dispatched := claimed (.printerStatus 0x00) _ _ parser false rfl stands
  have counted := ((dispatches_frame_iff stands (by decide)).mp dispatched).2.1
  revert counted
  decide

end SfBuilder

end Pure3270

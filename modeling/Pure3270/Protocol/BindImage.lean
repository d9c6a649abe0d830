import Pure3270.Protocol.OrderHandlers

/-!
# The addressing mode of a BIND-IMAGE

Two parsers and one builder know the structured field `81 len len flags …`, each with
its own place for the byte that holds the addressing mode.  The negotiator of a session
asks both parsers about the same field.
-/

namespace Pure3270

namespace BindImageParser

abbrev sfBindImage : UInt8 := 0x81
abbrev addressing12Bit : UInt8 := 0x00
abbrev addressing14Bit : UInt8 := 0x01
abbrev bindImageHeaderLen : Nat := 3
abbrev addressingModeOffset : Nat := 2
abbrev simplifiedMinLen : Nat := 16

/-- The mode that a flag byte announces. -/
def modeOf (flag : UInt8) : AddressingMode :=
  if flag &&& addressing14Bit ≠ 0 then .mode14Bit else .mode12Bit

/-- The permissive parse of a payload without a header: its last byte. -/
def parsePermissively (bindImageData : List UInt8) : Option AddressingMode :=
  if simplifiedMinLen ≤ bindImageData.length then bindImageData.getLast?.map modeOf
  else none

/-- `_parse_addressing_mode_from_parameters`. -/
def parseAddressingModeFromParameters (parameters : List UInt8) : Option AddressingMode :=
  parameters[addressingModeOffset]?.map modeOf

/-- `parse_addressing_mode`. -/
def parseAddressingMode (bindImageData : List UInt8) : Option AddressingMode :=
  match bindImageData with
  | sfId :: high :: low :: rest =>
      if sfId ≠ sfBindImage then parsePermissively bindImageData
      else
        let sfLength := DataStreamParser.u16 high low
        if sfLength < bindImageHeaderLen ∨ bindImageData.length < sfLength then
          parsePermissively bindImageData
        else parseAddressingModeFromParameters (rest.take (sfLength - bindImageHeaderLen))
  | _ => parsePermissively bindImageData

/-- The dictionary that `parse_bind_parameters` returns. -/
structure BindParameters where
  flags : Option UInt8
  addressingMode : Option UInt8
  screenRows : Option UInt8
  screenCols : Option UInt8
  extendedParams : Option (List UInt8)
  deriving DecidableEq

/-- The message of every error of `parse_bind_parameters`. -/
def bindParameterError : String := "BIND parameter parsing failed"

/-- `parse_bind_parameters`. -/
def parseBindParameters (bindImageData : List UInt8) : Except String BindParameters :=
  match bindImageData with
  | sfId :: high :: low :: rest =>
      if sfId ≠ sfBindImage then .error bindParameterError
      else
        let sfLength := DataStreamParser.u16 high low
        if bindImageData.length < sfLength then .error bindParameterError
        else
          let paramData := rest.take (sfLength - bindImageHeaderLen)
          .ok
            { flags := paramData[0]?
              addressingMode := paramData[1]?
              screenRows := if 4 ≤ paramData.length then paramData[2]? else none
              screenCols := if 4 ≤ paramData.length then paramData[3]? else none
              extendedParams :=
                if 4 < paramData.length then some (paramData.drop 4) else none }
  | _ => .error bindParameterError

/-- The values that `bytes` takes. -/
def byteOf (value : Int) : Option UInt8 :=
  if 0 ≤ value ∧ value ≤ 255 then some (.ofNat value.toNat) else none

/-- The flag that announces a mode. -/
def addressingFlag : AddressingMode → UInt8
  | .mode14Bit => addressing14Bit
  | .mode12Bit => addressing12Bit

/-- `create_bind_image_response`, for rows and columns that are bytes. -/
def createBindImageResponse (addressingMode : AddressingMode) (screenRows screenCols : Int) :
    Option (List UInt8) := do
  let rows ← byteOf screenRows
  let cols ← byteOf screenCols
  let parameters := [0x00, addressingFlag addressingMode, rows, cols]
  let totalLength := bindImageHeaderLen + parameters.length
  some ([sfBindImage, .ofNat (totalLength / 256), .ofNat totalLength] ++ parameters)

end BindImageParser

inductive AddressingNegotiationState where
  | notNegotiated
  | negotiating
  | negotiated12Bit
  | negotiated14Bit
  | failed
  deriving DecidableEq

/-- What the list of server capabilities holds: capabilities, and the modes that are
put there for old tests. -/
inductive ServerCapability where
  | capability (mode : AddressingMode)
  | mode (mode : AddressingMode)
  deriving DecidableEq

structure AddressingModeNegotiator where
  state : AddressingNegotiationState
  serverCapabilities : List ServerCapability
  negotiatedMode : Option AddressingMode
  bindImageReceived : Bool
  bindImageAddressingMode : Option AddressingMode
  deriving DecidableEq

namespace AddressingModeNegotiator

def new : AddressingModeNegotiator :=
  { state := .notNegotiated
    serverCapabilities := []
    negotiatedMode := none
    bindImageReceived := false
    bindImageAddressingMode := none }

/-- The state that goes with a negotiated mode. -/
def negotiated : AddressingMode → AddressingNegotiationState
  | .mode12Bit => .negotiated12Bit
  | .mode14Bit => .negotiated14Bit

def isNegotiated (negotiator : AddressingModeNegotiator) : Bool :=
  negotiator.state = .negotiated12Bit || negotiator.state = .negotiated14Bit

/-- `parse_bind_image_addressing_mode` skips one byte and reads the third one after
it. -/
def parseBindImageAddressingMode (bindImageData : List UInt8) :
    Except String AddressingMode :=
  if bindImageData.length < 2 then
    .error "BIND-IMAGE data too short to determine addressing mode"
  else
    match bindImageData.drop 1 with
    | _ :: _ :: addressingFlags :: _ :: _ => .ok (BindImageParser.modeOf addressingFlags)
    | _ => .error "BIND-IMAGE parameters too short to determine addressing mode"

/-- A capability that is appended once. -/
def addCapability (capability : ServerCapability) (capabilities : List ServerCapability) :
    List ServerCapability :=
  if capability ∈ capabilities then capabilities else capabilities ++ [capability]

def updateFromBindImage (bindImageData : List UInt8)
    (negotiator : AddressingModeNegotiator) : AddressingModeNegotiator :=
  match parseBindImageAddressingMode bindImageData with
  | .error _ => negotiator
  | .ok detectedMode =>
      let noted :=
        { negotiator with
          bindImageAddressingMode := some detectedMode
          bindImageReceived := true
          serverCapabilities :=
            addCapability (.mode .mode14Bit)
              (addCapability (.capability .mode14Bit) negotiator.serverCapabilities) }
      if noted.isNegotiated then noted
      else
        { noted with
          negotiatedMode := some detectedMode
          state := negotiated detectedMode }

/-- `handle_bind_image` of the handler, and `handle_bind_image_addressing` of the
telnet negotiator. -/
def handleBindImage (bindImageData : List UInt8) (negotiator : AddressingModeNegotiator) :
    AddressingModeNegotiator :=
  match BindImageParser.parseAddressingMode bindImageData with
  | none => negotiator
  | some detectedMode =>
      let updated := negotiator.updateFromBindImage bindImageData
      if updated.negotiatedMode = some detectedMode then updated
      else { updated with negotiatedMode := some detectedMode }

end AddressingModeNegotiator

/-- A BIND-IMAGE with its header: the identifier, and a length that is at least 5 and
within the data. -/
structure WellFormedBind (d : List UInt8) : Prop where
  id : d.head? = some BindImageParser.sfBindImage
  long : 5 ≤ DataStreamParser.u16 (d.getD 1 0) (d.getD 2 0)
  within : DataStreamParser.u16 (d.getD 1 0) (d.getD 2 0) ≤ d.length

/-- Both parsers read one mode, and it is the mode that the negotiator ends in. -/
def OneMeaning (d : List UInt8) (mode : AddressingMode) : Prop :=
  BindImageParser.parseAddressingMode d = some mode ∧
    AddressingModeNegotiator.parseBindImageAddressingMode d = .ok mode ∧
    ∀ negotiator : AddressingModeNegotiator,
      (negotiator.handleBindImage d).negotiatedMode = some mode

/-- What has been built is read as it was meant. -/
def ReadsBack (d : List UInt8) (mode : AddressingMode) (rows cols : Int) : Prop :=
  OneMeaning d mode ∧ ∃ parameters, BindImageParser.parseBindParameters d = .ok parameters ∧
    parameters.screenRows.map (fun byte => (byte.toNat : Int)) = some rows ∧
    parameters.screenCols.map (fun byte => (byte.toNat : Int)) = some cols

namespace BindImageParser

theorem and_one_cases (flag : UInt8) : flag &&& 1 = 0 ∨ flag &&& 1 = 1 := by
  have bit : (flag &&& 1).toNat = flag.toNat % 2 := by
    rw [UInt8.toNat_and]
    exact Nat.and_one_is_mod flag.toNat
  rcases Nat.mod_two_eq_zero_or_one flag.toNat with even | odd
  · exact .inl (UInt8.toNat_inj.mp (bit.trans even))
  · exact .inr (UInt8.toNat_inj.mp (bit.trans odd))

/-- A mode is one bit of its byte. -/
theorem modeOf_eq_iff {first second : UInt8} :
    modeOf first = modeOf second ↔ first &&& 1 = second &&& 1 := by
  unfold modeOf addressing14Bit
  rcases and_one_cases first with left | left <;> rcases and_one_cases second with right | right
  all_goals
    rw [left, right]
    decide

end BindImageParser

theorem WellFormedBind.bytes {d : List UInt8} (wellFormed : WellFormedBind d) :
    ∃ high low first second rest,
      d = BindImageParser.sfBindImage :: high :: low :: first :: second :: rest ∧
        5 ≤ DataStreamParser.u16 high low ∧
        DataStreamParser.u16 high low ≤ d.length := by
  obtain ⟨id, long, within⟩ := wellFormed
  have enough := Nat.le_trans long within
  rcases d with _ | ⟨sfId, _ | ⟨high, _ | ⟨low, _ | ⟨first, _ | ⟨second, rest⟩⟩⟩⟩⟩
  case cons.cons.cons.cons.cons =>
    cases id
    exact ⟨high, low, first, second, rest, rfl, long, within⟩
  all_goals
    simp only [List.length_cons, List.length_nil] at enough
    omega

/-- The first parser reads the byte at offset 5, if the length covers it. -/
theorem parseAddressingMode_wellFormed {d : List UInt8} (wellFormed : WellFormedBind d) :
    BindImageParser.parseAddressingMode d =
      if 6 ≤ DataStreamParser.u16 (d.getD 1 0) (d.getD 2 0) then
        some (BindImageParser.modeOf (d.getD 5 0))
      else none := by
  obtain ⟨high, low, first, second, rest, rfl, long, within⟩ := wellFormed.bytes
  have header : BindImageParser.bindImageHeaderLen = 3 := rfl
  have offset : BindImageParser.addressingModeOffset = 2 := rfl
  have proper : ¬(DataStreamParser.u16 high low < BindImageParser.bindImageHeaderLen ∨
      (BindImageParser.sfBindImage :: high :: low :: first :: second :: rest).length <
        DataStreamParser.u16 high low) := by
    omega
  change _ = if 6 ≤ DataStreamParser.u16 high low then _ else _
  unfold BindImageParser.parseAddressingMode
  dsimp only
  rw [if_neg (not_not.mpr rfl), if_neg proper]
  unfold BindImageParser.parseAddressingModeFromParameters
  rw [List.getElem?_take]
  by_cases covered : 6 ≤ DataStreamParser.u16 high low
  · rw [if_pos covered, if_pos (by omega)]
    cases rest with
    | nil =>
        simp only [List.length_cons, List.length_nil] at within
        omega
    | cons flag rest => rfl
  · rw [if_neg covered, if_neg (by omega)]
    rfl

/-- The second parser reads the byte at offset 3. -/
theorem parseBindImageAddressingMode_wellFormed {d : List UInt8}
    (wellFormed : WellFormedBind d) :
    AddressingModeNegotiator.parseBindImageAddressingMode d =
      .ok (BindImageParser.modeOf (d.getD 3 0)) := by
  obtain ⟨high, low, first, second, rest, rfl, _, _⟩ := wellFormed.bytes
  unfold AddressingModeNegotiator.parseBindImageAddressingMode
  rw [if_neg (by simp only [List.length_cons]; omega)]
  rfl

theorem handleBindImage_negotiatedMode {d : List UInt8} {mode : AddressingMode}
    (parsed : BindImageParser.parseAddressingMode d = some mode)
    (negotiator : AddressingModeNegotiator) :
    (negotiator.handleBindImage d).negotiatedMode = some mode := by
  unfold AddressingModeNegotiator.handleBindImage
  rw [parsed]
  dsimp only
  split
  · next same => exact same
  · rfl

/-- Both parsers agree exactly when the length covers offset 5 and the two bytes they
read have one lowest bit. -/
theorem oneMeaning_iff {d : List UInt8} (wellFormed : WellFormedBind d) :
    (∃ mode, OneMeaning d mode) ↔
      6 ≤ DataStreamParser.u16 (d.getD 1 0) (d.getD 2 0) ∧
        d.getD 3 0 &&& 1 = d.getD 5 0 &&& 1 := by
  have first := parseAddressingMode_wellFormed wellFormed
  have second := parseBindImageAddressingMode_wellFormed wellFormed
  constructor
  · rintro ⟨mode, one, two, _⟩
    rw [first] at one
    rw [second] at two
    split at one
    · next covered =>
        refine ⟨covered, BindImageParser.modeOf_eq_iff.mp ?_⟩
        exact (Except.ok.inj two).trans (Option.some.inj one).symm
    · cases one
  · rintro ⟨covered, same⟩
    rw [if_pos covered] at first
    refine ⟨_, first, ?_, handleBindImage_negotiatedMode first⟩
    rw [second, BindImageParser.modeOf_eq_iff.mpr same]

theorem byteOf_eq_some {value : Int} {byte : UInt8}
    (taken : BindImageParser.byteOf value = some byte) : (byte.toNat : Int) = value := by
  unfold BindImageParser.byteOf at taken
  split at taken
  · next fits =>
      cases taken
      rw [UInt8.toNat_ofNat']
      omega
  · cases taken

theorem createBindImageResponse_eq {mode : AddressingMode} {rows cols : Int}
    {built : List UInt8}
    (created : BindImageParser.createBindImageResponse mode rows cols = some built) :
    ∃ row col, BindImageParser.byteOf rows = some row ∧
      BindImageParser.byteOf cols = some col ∧
      built = [0x81, 0, 7, 0, BindImageParser.addressingFlag mode, row, col] := by
  unfold BindImageParser.createBindImageResponse at created
  cases first : BindImageParser.byteOf rows with
  | none =>
      rw [first] at created
      cases created
  | some row =>
      cases second : BindImageParser.byteOf cols with
      | none =>
          rw [first, second] at created
          cases created
      | some col =>
          rw [first, second] at created
          refine ⟨row, col, rfl, rfl, ?_⟩
          have size : BindImageParser.bindImageHeaderLen +
              [0x00, BindImageParser.addressingFlag mode, row, col].length = 7 := rfl
          have same := Option.some.inj created
          rw [size] at same
          exact same.symm

theorem modeOf_eq_mode12Bit {flag : UInt8} :
    BindImageParser.modeOf flag = .mode12Bit ↔ flag.toNat % 2 = 0 := by
  have zero : BindImageParser.modeOf 0 = .mode12Bit := rfl
  have bit : (flag &&& 1).toNat = flag.toNat % 2 := by
    rw [UInt8.toNat_and]
    exact Nat.and_one_is_mod flag.toNat
  rw [← zero, BindImageParser.modeOf_eq_iff, ← bit, ← UInt8.toNat_inj]
  rfl

/-- What is built is read back exactly when the mode is the 12-bit one and the number
of rows, which the first parser takes for the flags, is even. -/
theorem readsBack_iff {mode : AddressingMode} {rows cols : Int} {built : List UInt8}
    (created : BindImageParser.createBindImageResponse mode rows cols = some built) :
    ReadsBack built mode rows cols ↔ mode = .mode12Bit ∧ rows % 2 = 0 := by
  obtain ⟨row, col, first, second, rfl⟩ := createBindImageResponse_eq created
  have rowValue := byteOf_eq_some first
  have colValue := byteOf_eq_some second
  have one : BindImageParser.parseAddressingMode
      [0x81, 0, 7, 0, BindImageParser.addressingFlag mode, row, col] =
        some (BindImageParser.modeOf row) := rfl
  have two : AddressingModeNegotiator.parseBindImageAddressingMode
      [0x81, 0, 7, 0, BindImageParser.addressingFlag mode, row, col] = .ok .mode12Bit := rfl
  have even : BindImageParser.modeOf row = .mode12Bit ↔ rows % 2 = 0 := by
    rw [modeOf_eq_mode12Bit]
    omega
  constructor
  · rintro ⟨⟨parsed, other, _⟩, _⟩
    rw [two] at other
    rw [one] at parsed
    cases other
    exact ⟨rfl, even.mp (Option.some.inj parsed)⟩
  · rintro ⟨rfl, evenRows⟩
    rw [even.mpr evenRows] at one
    refine ⟨⟨one, two, handleBindImage_negotiatedMode one⟩, _, rfl, ?_, ?_⟩
    · exact congrArg some rowValue
    · exact congrArg some colValue

/-- A BIND-IMAGE has one meaning, and what is built is read back, exactly under the
two conditions on the bytes that the parsers read. -/
theorem oneMeaning_and_readsBack_iff (d : List UInt8) (wellFormed : WellFormedBind d)
    (mode : AddressingMode) (rows cols : Int) (built : List UInt8)
    (created : BindImageParser.createBindImageResponse mode rows cols = some built) :
    ((∃ announced, OneMeaning d announced) ↔
      6 ≤ DataStreamParser.u16 (d.getD 1 0) (d.getD 2 0) ∧
        d.getD 3 0 &&& 1 = d.getD 5 0 &&& 1) ∧
    (ReadsBack built mode rows cols ↔ mode = .mode12Bit ∧ rows % 2 = 0) :=
  ⟨oneMeaning_iff wellFormed, readsBack_iff created⟩

/-- A field of 6 bytes whose two flag bytes agree, and a screen of 24 rows. -/
theorem oneMeaning_of_agreeing :
    ((∃ announced, OneMeaning [0x81, 0, 6, 1, 0, 1] announced) ↔
      6 ≤ DataStreamParser.u16 0 6 ∧ (1 : UInt8) &&& 1 = 1 &&& 1) ∧
    (ReadsBack [0x81, 0, 7, 0, 0, 24, 80] .mode12Bit 24 80 ↔
      AddressingMode.mode12Bit = .mode12Bit ∧ (24 : Int) % 2 = 0) :=
  oneMeaning_and_readsBack_iff [0x81, 0, 6, 1, 0, 1] ⟨rfl, by decide, by decide⟩ .mode12Bit
    24 80 [0x81, 0, 7, 0, 0, 24, 80] (by decide)

/-- The 14-bit BIND-IMAGE of a screen of 24 rows is read as a 12-bit one. -/
theorem modeLost_mode14Bit :
    BindImageParser.createBindImageResponse .mode14Bit 24 80 =
        some [0x81, 0, 7, 0, 1, 24, 80] ∧
      ¬ReadsBack [0x81, 0, 7, 0, 1, 24, 80] .mode14Bit 24 80 := by
  refine ⟨by decide, ?_⟩
  rintro ⟨⟨parsed, _⟩, _⟩
  exact absurd parsed (by decide)

end Pure3270

import Pure3270.Foundations.Residues
import Pure3270.Protocol.OrderHandlers

/-!
# TN3270E headers

Five bytes in front of a record: the data type, two flags and a sequence
number with the high byte first.
-/

namespace Pure3270

structure Tn3270eHeader where
  dataType : UInt8
  requestFlag : UInt8
  responseFlag : UInt8
  seqNumber : UInt16
  deriving DecidableEq, Repr

namespace Tn3270eHeader

abbrev tn3270Data : UInt8 := 0x00
abbrev scsData : UInt8 := 0x01
abbrev response : UInt8 := 0x02
abbrev bindImage : UInt8 := 0x03
abbrev unbind : UInt8 := 0x04
abbrev nvtData : UInt8 := 0x05
abbrev request : UInt8 := 0x06
abbrev sscpLuData : UInt8 := 0x07
abbrev printEoj : UInt8 := 0x08
abbrev snaResponse : UInt8 := 0x09
abbrev printerStatusDataType : UInt8 := 0x0A

/-- `TN3270E_DATA_TYPES`. -/
def tn3270eDataTypes : List UInt8 :=
  [tn3270Data, scsData, response, bindImage, unbind, nvtData, request, sscpLuData,
    printEoj, snaResponse, printerStatusDataType]

abbrev rsfNoResponse : UInt8 := 0x00
abbrev rsfErrorResponse : UInt8 := 0x01
abbrev rsfAlwaysResponse : UInt8 := 0x02

/-- `from_bytes`; it reads the first five bytes. -/
def fromBytes : List UInt8 → Option Tn3270eHeader
  | dataType :: requestFlag :: responseFlag :: high :: low :: _ =>
      let header := [dataType, requestFlag, responseFlag, high, low]
      if header.all (· = 0x00) then none
      else if header.all (· = 0xFF) then none
      else if responseFlag ∉ [rsfNoResponse, rsfErrorResponse, rsfAlwaysResponse] then
        none
      else
        some
          { dataType, requestFlag, responseFlag
            seqNumber := .ofNat (DataStreamParser.u16 high low) }
  | _ => none

/-- `to_bytes`. -/
def toBytes (header : Tn3270eHeader) : List UInt8 :=
  [header.dataType, header.requestFlag, header.responseFlag,
    .ofNat (header.seqNumber.toNat / 256), .ofNat header.seqNumber.toNat]

def isErrorResponse (header : Tn3270eHeader) : Bool :=
  header.responseFlag = rsfErrorResponse

/-- RFC 2355 has no flag of its own for negative responses. -/
def isNegativeResponse (header : Tn3270eHeader) : Bool :=
  header.responseFlag = rsfErrorResponse

theorem length_toBytes (header : Tn3270eHeader) : header.toBytes.length = 5 := rfl

/-- The headers that `from_bytes` takes: the two trivial ones and those with an
unknown response flag are turned down. -/
def Accepted (header : Tn3270eHeader) : Prop :=
  header.responseFlag ∈ [rsfNoResponse, rsfErrorResponse, rsfAlwaysResponse] ∧
    header ≠ ⟨0, 0, 0, 0⟩

instance (header : Tn3270eHeader) : Decidable header.Accepted := by
  unfold Accepted
  infer_instance

theorem u16_eq (high low : UInt8) :
    DataStreamParser.u16 high low = high.toNat * 256 + low.toNat :=
  Foundations.join_bits low.toNat_lt

theorem u16_toBytes (seqNumber : UInt16) :
    UInt16.ofNat (DataStreamParser.u16 (.ofNat (seqNumber.toNat / 256))
      (.ofNat seqNumber.toNat)) = seqNumber := by
  have bound := seqNumber.toNat_lt
  have joined : DataStreamParser.u16 (.ofNat (seqNumber.toNat / 256))
      (.ofNat seqNumber.toNat) = seqNumber.toNat := by
    rw [u16_eq]
    simp only [UInt8.toNat_ofNat']
    omega
  rw [joined, UInt16.ofNat_toNat]

theorem toBytes_u16 (high low : UInt8) :
    [UInt8.ofNat ((UInt16.ofNat (DataStreamParser.u16 high low)).toNat / 256),
      UInt8.ofNat (UInt16.ofNat (DataStreamParser.u16 high low)).toNat] =
      [high, low] := by
  have highBound := high.toNat_lt
  have lowBound := low.toNat_lt
  have kept : (UInt16.ofNat (DataStreamParser.u16 high low)).toNat =
      high.toNat * 256 + low.toNat := by
    rw [u16_eq, UInt16.toNat_ofNat']
    omega
  have upper : (high.toNat * 256 + low.toNat) / 256 = high.toNat := by omega
  have lower : UInt8.ofNat (high.toNat * 256 + low.toNat) = low := by
    apply UInt8.toNat_inj.mp
    rw [UInt8.toNat_ofNat']
    omega
  rw [kept, upper, lower, UInt8.ofNat_toNat]

/-- Reading gives back what was written, for the headers that are taken. -/
theorem fromBytes_toBytes {header : Tn3270eHeader} (accepted : header.Accepted)
    (rest : List UInt8) : fromBytes (header.toBytes ++ rest) = some header := by
  obtain ⟨flag, nonzero⟩ := accepted
  obtain ⟨dataType, requestFlag, responseFlag, seqNumber⟩ := header
  have notZero : ¬ ([dataType, requestFlag, responseFlag,
      UInt8.ofNat (seqNumber.toNat / 256), UInt8.ofNat seqNumber.toNat].all
        (· = 0x00)) = true := by
    intro zeros
    simp only [List.all_cons, List.all_nil, Bool.and_true, Bool.and_eq_true,
      decide_eq_true_eq] at zeros
    obtain ⟨rfl, rfl, rfl, high, low⟩ := zeros
    have same := u16_toBytes seqNumber
    rw [high, low] at same
    apply nonzero
    rw [← same]
    rfl
  have notOnes : ¬ ([dataType, requestFlag, responseFlag,
      UInt8.ofNat (seqNumber.toNat / 256), UInt8.ofNat seqNumber.toNat].all
        (· = 0xFF)) = true := by
    intro ones
    simp only [List.all_cons, List.all_nil, Bool.and_true, Bool.and_eq_true,
      decide_eq_true_eq] at ones
    obtain ⟨-, -, rfl, -, -⟩ := ones
    have unknown : (0xFF : UInt8) ∉
        [rsfNoResponse, rsfErrorResponse, rsfAlwaysResponse] := by decide
    exact unknown flag
  simp only [toBytes, List.cons_append, List.nil_append, fromBytes]
  rw [if_neg notZero, if_neg notOnes, if_neg (not_not_intro flag), u16_toBytes]

/-- A header that was read is the first five bytes. -/
theorem toBytes_of_fromBytes {data : List UInt8} {header : Tn3270eHeader}
    (found : fromBytes data = some header) :
    header.Accepted ∧ ∃ rest, data = header.toBytes ++ rest := by
  unfold fromBytes at found
  split at found
  · rename_i dataType requestFlag responseFlag high low rest
    simp only at found
    split at found
    · cases found
    · rename_i notZero
      split at found
      · cases found
      · split at found
        · cases found
        · rename_i flag
          cases found
          constructor
          · constructor
            · exact not_not.mp flag
            · intro zeros
              injection zeros with dataZero requestZero responseZero seqZero
              have bytes := toBytes_u16 high low
              rw [seqZero] at bytes
              injection bytes with highZero lowZero
              injection lowZero with lowZero
              apply notZero
              simp [dataZero, requestZero, responseZero, ← highZero, ← lowZero]
          · refine ⟨rest, ?_⟩
            have bytes := toBytes_u16 high low
            injection bytes with highEq lowEq
            injection lowEq with lowEq
            simp only [toBytes, highEq, lowEq, List.cons_append, List.nil_append]
  · cases found

theorem fromBytes_append {headerBytes : List UInt8} (five : headerBytes.length = 5)
    (rest : List UInt8) : fromBytes (headerBytes ++ rest) = fromBytes headerBytes := by
  match headerBytes, five with
  | [_, _, _, _, _], _ => rfl

theorem dataType_eq_head {headerBytes : List UInt8} {header : Tn3270eHeader}
    (found : fromBytes headerBytes = some header) :
    headerBytes.head? = some header.dataType := by
  obtain ⟨-, rest, rfl⟩ := toBytes_of_fromBytes found
  rfl

end Tn3270eHeader

end Pure3270

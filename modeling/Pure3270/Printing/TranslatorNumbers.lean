import Mathlib.Data.List.Chain
import Pure3270.Foundations.Runs
import Pure3270.Printing.PrintRouting

/-!
# The numbers of a translator

Four operations of a translator number their headers from one counter, which no one takes
back to the sixteen bits that a header has for it.
-/

namespace Pure3270

open Foundations

/-- A header before it is written, with the numbers it was made with. -/
structure OutgoingHeader where
  dataType : Int
  requestFlag : Int
  responseFlag : Int
  seqNumber : Int
  deriving DecidableEq, Repr

namespace OutgoingHeader

/-- `struct.pack` takes one byte. -/
def packByte (number : Int) : Option (List UInt8) :=
  if 0 ≤ number ∧ number ≤ 255 then some [.ofNat number.toNat] else none

/-- `struct.pack` takes two bytes, the high one first. -/
def packShort (number : Int) : Option (List UInt8) :=
  if 0 ≤ number ∧ number ≤ 65535 then
    some [.ofNat (number.toNat / 256), .ofNat number.toNat]
  else none

/-- `to_bytes`, which raises for a number that does not fit. -/
def toBytes (header : OutgoingHeader) : Option (List UInt8) := do
  let dataType ← packByte header.dataType
  let requestFlag ← packByte header.requestFlag
  let responseFlag ← packByte header.responseFlag
  let seqNumber ← packShort header.seqNumber
  some (dataType ++ requestFlag ++ responseFlag ++ seqNumber)

/-- A header that the translator makes on its own. -/
def own (dataType : UInt8) (number : Nat) : OutgoingHeader where
  dataType := dataType.toNat
  requestFlag := 0
  responseFlag := Tn3270eHeader.rsfNoResponse.toNat
  seqNumber := number

end OutgoingHeader

/-- The calls that translate something. -/
inductive TranslatorCall where
  | toPrinterSession (data : List UInt8) (sourceHeader : Option OutgoingHeader)
      (sessionType : String)
  | fromPrinterSession (data : List UInt8) (printerHeader : Option OutgoingHeader)
      (targetSessionType : String)
  | printJobEnd
  | statusResponse (statusCode : Int)

namespace TranslatorCall

/-- What a call returns: the header, whether it bears the translator's own number, and the
data. -/
structure Translated where
  header : Option OutgoingHeader
  own : Bool
  data : List UInt8

/-- The calls take a number and leave the counter at the next one. -/
def numbered (dataType : UInt8) (data : List UInt8) (translator : ProtocolTranslator) :
    Translated × ProtocolTranslator :=
  (⟨some (.own dataType translator.sequenceNumber), true, data⟩,
    { translator with sequenceNumber := translator.sequenceNumber + 1 })

/-- `translate_to_printer_session`. -/
def translateToPrinterSession (data : List UInt8) (sourceHeader : Option OutgoingHeader)
    (sessionType : String) (translator : ProtocolTranslator) :
    Translated × ProtocolTranslator :=
  let typed := { translator with sessionType := some sessionType }
  if sessionType = "tn3270e" then numbered Tn3270eHeader.scsData data typed
  else if sessionType = "tn3270" then (⟨none, false, data⟩, typed)
  else (⟨sourceHeader, false, data⟩, typed)

/-- `translate_from_printer_session`: only a response without a header is numbered here. -/
def translateFromPrinterSession (data : List UInt8) (printerHeader : Option OutgoingHeader)
    (targetSessionType : String) (translator : ProtocolTranslator) :
    Translated × ProtocolTranslator :=
  if targetSessionType = "tn3270e" then
    match printerHeader with
    | none => numbered Tn3270eHeader.response data translator
    | some header =>
        (⟨some { header with dataType := Tn3270eHeader.response.toNat }, false, data⟩,
          translator)
  else (⟨printerHeader, false, data⟩, translator)

/-- `translate_status_response`.  The number is taken before `bytes` refuses a status that
is no byte. -/
def translateStatusResponse (statusCode : Int) (translator : ProtocolTranslator) :
    Except String Translated × ProtocolTranslator :=
  let (translated, after) := numbered Tn3270eHeader.response [] translator
  if 0 ≤ statusCode ∧ statusCode ≤ 255 then
    (.ok { translated with data := [.ofNat statusCode.toNat] }, after)
  else (.error "bytes must be in range(0, 256)", after)

def perform : TranslatorCall → ProtocolTranslator →
    Except String Translated × ProtocolTranslator
  | .toPrinterSession data sourceHeader sessionType, translator =>
      let (translated, after) :=
        translateToPrinterSession data sourceHeader sessionType translator
      (.ok translated, after)
  | .fromPrinterSession data printerHeader targetSessionType, translator =>
      let (translated, after) :=
        translateFromPrinterSession data printerHeader targetSessionType translator
      (.ok translated, after)
  | .printJobEnd, translator =>
      let (translated, after) := numbered Tn3270eHeader.printEoj [] translator
      (.ok translated, after)
  | .statusResponse statusCode, translator => translateStatusResponse statusCode translator

/-- The call makes a header with the next number. -/
def takes : TranslatorCall → Bool
  | .toPrinterSession _ _ sessionType => sessionType = "tn3270e"
  | .fromPrinterSession _ printerHeader targetSessionType =>
      targetSessionType = "tn3270e" ∧ printerHeader = none
  | .printJobEnd => true
  | .statusResponse statusCode => 0 ≤ statusCode ∧ statusCode ≤ 255

/-- The status is no byte: a number is taken and no header is returned. -/
def loses : TranslatorCall → Bool
  | .statusResponse statusCode => ¬ (0 ≤ statusCode ∧ statusCode ≤ 255)
  | _ => false

/-- The header with the translator's own number, if the call returns one. -/
def made : Except String Translated → List OutgoingHeader
  | .ok translated => if translated.own then translated.header.toList else []
  | .error _ => []

variable {call : TranslatorCall} {translator : ProtocolTranslator}

theorem perform_of_takes (takes : call.takes = true) :
    ∃ dataType, made (call.perform translator).1 = [.own dataType translator.sequenceNumber] ∧
      (call.perform translator).2.sequenceNumber = translator.sequenceNumber + 1 ∧
      call.loses = false := by
  cases call with
  | toPrinterSession data sourceHeader sessionType =>
      have known : sessionType = "tn3270e" := of_decide_eq_true takes
      subst known
      exact ⟨_, rfl, rfl, rfl⟩
  | fromPrinterSession data printerHeader targetSessionType =>
      obtain ⟨known, none⟩ := of_decide_eq_true takes
      subst known
      subst none
      exact ⟨_, rfl, rfl, rfl⟩
  | printJobEnd => exact ⟨_, rfl, rfl, rfl⟩
  | statusResponse statusCode =>
      have byte : 0 ≤ statusCode ∧ statusCode ≤ 255 := of_decide_eq_true takes
      have returned : (perform (.statusResponse statusCode) translator).1 =
          .ok ⟨some (.own Tn3270eHeader.response translator.sequenceNumber), true,
            [.ofNat statusCode.toNat]⟩ := by
        simp only [perform, translateStatusResponse, numbered, if_pos byte]
      refine ⟨Tn3270eHeader.response, by rw [returned]; rfl, ?_,
        decide_eq_false (not_not_intro byte)⟩
      simp only [perform, translateStatusResponse, numbered, if_pos byte]

theorem perform_of_loses (loses : call.loses = true) :
    made (call.perform translator).1 = [] ∧
      (call.perform translator).2.sequenceNumber = translator.sequenceNumber + 1 ∧
      call.takes = false := by
  cases call with
  | statusResponse statusCode =>
      have noByte : ¬ (0 ≤ statusCode ∧ statusCode ≤ 255) := of_decide_eq_true loses
      simp only [perform, translateStatusResponse, numbered, if_neg noByte, made,
        takes, decide_eq_false noByte, and_self]
  | _ => cases loses

theorem perform_of_neither (takes : call.takes = false) (loses : call.loses = false) :
    made (call.perform translator).1 = [] ∧
      (call.perform translator).2.sequenceNumber = translator.sequenceNumber := by
  cases call with
  | toPrinterSession data sourceHeader sessionType =>
      have other : sessionType ≠ "tn3270e" := of_decide_eq_false takes
      simp only [perform, translateToPrinterSession, if_neg other]
      split <;> exact ⟨rfl, rfl⟩
  | fromPrinterSession data printerHeader targetSessionType =>
      have other : ¬ (targetSessionType = "tn3270e" ∧ printerHeader = none) :=
        of_decide_eq_false takes
      simp only [perform, translateFromPrinterSession]
      split
      · cases printerHeader with
        | none => exact absurd ⟨by assumption, rfl⟩ other
        | some header => exact ⟨rfl, rfl⟩
      · exact ⟨rfl, rfl⟩
  | printJobEnd => cases takes
  | statusResponse statusCode =>
      have noByte : ¬ (0 ≤ statusCode ∧ statusCode ≤ 255) := of_decide_eq_false takes
      exact absurd noByte (of_decide_eq_false loses)

end TranslatorCall

/-- A translator, the headers it has numbered so far, and whether a number was lost since
the first of them. -/
structure NumberedRun where
  translator : ProtocolTranslator
  headers : List OutgoingHeader
  lost : Bool

namespace NumberedRun

/-- After `activate_printer_session`. -/
def start (sessionType : String) : NumberedRun :=
  ⟨.activatePrinterSession sessionType, [], false⟩

def step (call : TranslatorCall) (run : NumberedRun) : NumberedRun where
  translator := (call.perform run.translator).2
  headers := run.headers ++ TranslatorCall.made (call.perform run.translator).1
  lost := run.lost || (call.loses && !run.headers.isEmpty)

/-- The number is one for the wire, and the header can be written. -/
def OnWire (header : OutgoingHeader) : Prop :=
  0 ≤ header.seqNumber ∧ header.seqNumber ≤ 65535 ∧ header.toBytes.isSome = true

/-- The number of the next header. -/
def Follows (header next : OutgoingHeader) : Prop :=
  next.seqNumber = (header.seqNumber + 1) % 65536

/-- All headers can go out, numbered one after the other. -/
structure Numbered (run : NumberedRun) : Prop where
  onWire : ∀ header ∈ run.headers, OnWire header
  consecutive : run.headers.IsChain Follows

/-- The condition of each call: while fewer than 65536 numbers have been taken and none was
lost since the first header, there may be another one. -/
def Fits (call : TranslatorCall) (run : NumberedRun) : Prop :=
  call.takes = true → run.translator.sequenceNumber < 65536 ∧ run.lost = false

/-- How the last header stands to the counter. -/
structure Kept (run : NumberedRun) : Prop where
  next : run.lost = false → ∀ last ∈ run.headers.getLast?,
    last.seqNumber + 1 = run.translator.sequenceNumber
  behind : run.lost = true → ∃ last ∈ run.headers.getLast?,
    last.seqNumber + 1 < run.translator.sequenceNumber

variable {run : NumberedRun}

theorem toBytes_own (dataType : UInt8) {number : Nat} (fits : number < 65536) :
    (OutgoingHeader.own dataType number).toBytes =
      some (Tn3270eHeader.toBytes ⟨dataType, 0, Tn3270eHeader.rsfNoResponse,
        .ofNat number⟩) := by
  have bound := dataType.toNat_lt
  have type : OutgoingHeader.packByte dataType.toNat = some [dataType] := by
    unfold OutgoingHeader.packByte
    rw [if_pos (by omega), Int.toNat_natCast, UInt8.ofNat_toNat]
  have short : OutgoingHeader.packShort number =
      some [.ofNat (number / 256), .ofNat number] := by
    unfold OutgoingHeader.packShort
    rw [if_pos (by omega), Int.toNat_natCast]
  have kept : (UInt16.ofNat number).toNat = number := by
    rw [UInt16.toNat_ofNat']
    omega
  unfold OutgoingHeader.toBytes OutgoingHeader.own Tn3270eHeader.toBytes
  dsimp only
  rw [type, short, kept]
  rfl

theorem onWire_own_iff (dataType : UInt8) (number : Nat) :
    OnWire (.own dataType number) ↔ number < 65536 := by
  constructor
  · rintro ⟨_, bound, _⟩
    have same : (number : Int) ≤ 65535 := bound
    omega
  · intro fits
    have bound : (number : Int) ≤ 65535 := by omega
    refine ⟨Int.natCast_nonneg number, bound, ?_⟩
    rw [toBytes_own dataType fits]
    rfl

theorem start_kept (sessionType : String) : Kept (start sessionType) where
  next _ last none := by cases none
  behind lost := by cases lost

theorem start_numbered (sessionType : String) : Numbered (start sessionType) where
  onWire _ none := absurd none List.not_mem_nil
  consecutive := .nil

section Step

open TranslatorCall

variable {call : TranslatorCall}

theorem step_of_takes (takes : call.takes = true) :
    ∃ dataType, (step call run).headers =
        run.headers ++ [.own dataType run.translator.sequenceNumber] ∧
      (step call run).translator.sequenceNumber = run.translator.sequenceNumber + 1 ∧
      (step call run).lost = run.lost := by
  obtain ⟨dataType, made, next, kept⟩ := @perform_of_takes call run.translator takes
  refine ⟨dataType, congrArg _ made, next, ?_⟩
  unfold step
  dsimp only
  rw [kept, Bool.false_and, Bool.or_false]

theorem step_headers (takes : call.takes = false) : (step call run).headers = run.headers := by
  have made : made (call.perform run.translator).1 = [] := by
    by_cases loses : call.loses = true
    · exact (perform_of_loses loses).1
    · exact (perform_of_neither takes (Bool.eq_false_iff.mpr loses)).1
  exact (congrArg _ made).trans (List.append_nil _)

/-- How the counter stands to the last header depends on the lost numbers only. -/
theorem step_kept (call : TranslatorCall) (kept : Kept run) (fits : Fits call run) :
    Kept (step call run) := by
  by_cases takes : call.takes = true
  · obtain ⟨dataType, headers, next, lost⟩ := @step_of_takes run call takes
    have none := (fits takes).2
    constructor
    · intro _ last member
      rw [headers, List.getLast?_append_of_ne_nil _ (List.cons_ne_nil _ _)] at member
      cases member
      rw [next]
      rfl
    · intro some
      rw [lost, none] at some
      cases some
  · have headers := @step_headers run call (Bool.eq_false_iff.mpr takes)
    by_cases loses : call.loses = true
    · have next : (step call run).translator.sequenceNumber = _ :=
        (@perform_of_loses call run.translator loses).2.1
      constructor
      · intro none last member
        rw [headers] at member
        unfold step at none
        dsimp only at none
        rw [Bool.or_eq_false_iff, loses, Bool.true_and, Bool.not_eq_false',
          List.isEmpty_iff] at none
        rw [none.2] at member
        cases member
      · intro some
        rw [headers, next]
        cases before : run.lost with
        | true =>
            obtain ⟨last, member, behind⟩ := kept.behind before
            exact ⟨last, member, by omega⟩
        | false =>
            unfold step at some
            dsimp only at some
            rw [before, Bool.false_or, loses, Bool.true_and, Bool.not_eq_true',
              List.isEmpty_eq_false_iff] at some
            have last := List.getLast?_eq_some_getLast some
            have here := kept.next before _ last
            exact ⟨_, last, by omega⟩
    · have next : (step call run).translator.sequenceNumber = _ :=
        (@perform_of_neither call run.translator (Bool.eq_false_iff.mpr takes)
          (Bool.eq_false_iff.mpr loses)).2
      have lost : (step call run).lost = run.lost := by
        unfold step
        dsimp only
        rw [Bool.eq_false_iff.mpr loses, Bool.false_and, Bool.or_false]
      constructor
      · intro none
        rw [headers, next]
        exact kept.next (lost ▸ none)
      · intro some
        rw [headers, next]
        exact kept.behind (lost ▸ some)

theorem numbered_concat_iff {before after : NumberedRun} {header : OutgoingHeader}
    (numbered : Numbered before) (headers : after.headers = before.headers ++ [header]) :
    Numbered after ↔ OnWire header ∧ ∀ last ∈ before.headers.getLast?, Follows last header := by
  constructor
  · rintro ⟨onWire, consecutive⟩
    rw [headers] at onWire consecutive
    refine ⟨onWire header (List.mem_append_right _ List.mem_cons_self), fun last member => ?_⟩
    exact (List.isChain_append.mp consecutive).2.2 last member header rfl
  · rintro ⟨here, follows⟩
    constructor
    · intro other member
      rw [headers] at member
      rcases List.mem_append.mp member with earlier | last
      · exact numbered.onWire other earlier
      · rwa [List.mem_singleton.mp last]
    · rw [headers]
      refine List.isChain_append.mpr ⟨numbered.consecutive, .singleton _, ?_⟩
      rintro last member _ ⟨⟩
      exact follows last member

/-- A call keeps the numbers right exactly if it meets its condition. -/
theorem step_numbered_iff (call : TranslatorCall) (kept : Kept run)
    (numbered : Numbered run) : Numbered (step call run) ↔ Fits call run := by
  by_cases takes : call.takes = true
  · obtain ⟨dataType, headers, _, _⟩ := @step_of_takes run call takes
    rw [numbered_concat_iff numbered headers, onWire_own_iff]
    have condition : Fits call run ↔
        run.translator.sequenceNumber < 65536 ∧ run.lost = false :=
      forall_prop_of_true takes
    rw [condition]
    refine and_congr_right fun fits => ?_
    constructor
    · intro follows
      by_contra some
      obtain ⟨last, member, behind⟩ := kept.behind (Bool.not_eq_false _ ▸ some)
      have next : (run.translator.sequenceNumber : Int) = (last.seqNumber + 1) % 65536 :=
        follows last member
      have wire := numbered.onWire last (List.mem_of_getLast? member)
      have lower := wire.1
      omega
    · intro none last member
      have next := kept.next none last member
      have wire := numbered.onWire last (List.mem_of_getLast? member)
      have lower := wire.1
      have same : (run.translator.sequenceNumber : Int) = (last.seqNumber + 1) % 65536 := by
        omega
      exact same
  · have headers := @step_headers run call (Bool.eq_false_iff.mpr takes)
    refine iff_of_true ?_ fun taken => absurd taken takes
    obtain ⟨onWire, consecutive⟩ := numbered
    exact ⟨headers ▸ onWire, headers ▸ consecutive⟩

end Step

/-- The numbers are right throughout a run exactly if all calls meet their condition. -/
theorem numbered_throughout_iff (sessionType : String) (calls : List TranslatorCall) :
    Always step Numbered calls (start sessionType) ↔
      Along step Fits calls (start sessionType) :=
  always_iff_along_while (fun call _ => step_kept call)
    (fun call _ => step_numbered_iff call) (start_kept sessionType)
    (start_numbered sessionType)

theorem run_jobEnds (count : Nat) (before : NumberedRun) :
    (Foundations.run step (List.replicate count .printJobEnd) before).translator.sequenceNumber =
      before.translator.sequenceNumber + count := by
  induction count generalizing before with
  | zero => rfl
  | succ count ih =>
      have later := ih (step .printJobEnd before)
      have next : (step .printJobEnd before).translator.sequenceNumber =
          before.translator.sequenceNumber + 1 := rfl
      rw [List.replicate_succ, Foundations.run, later, next]
      omega

/-- The header behind the last number does not fit, and the next one would not be the
first again. -/
theorem not_numbered_afterLast :
    ¬∀ calls, Always step Numbered calls (start "tn3270e") := by
  intro always
  have last := (always (List.replicate 65536 .printJobEnd ++ [.printJobEnd])).last
  have count := run_jobEnds 65536 (start "tn3270e")
  rw [run_append] at last
  generalize Foundations.run step (List.replicate 65536 .printJobEnd) (start "tn3270e") = before
    at last count
  have wire := last.onWire (.own Tn3270eHeader.printEoj before.translator.sequenceNumber)
    (List.mem_append_right _ List.mem_cons_self)
  have fits := (onWire_own_iff _ _).mp wire
  have first : (start "tn3270e").translator.sequenceNumber = 0 := rfl
  omega

end NumberedRun

end Pure3270

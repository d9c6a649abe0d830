import Pure3270.Protocol.FieldBlindness
import Pure3270.Protocol.ParserSafety

/-!
# What does not depend on the negotiator

A parser reports BIND images and SNA responses to its negotiator, and looks at
it for nothing else.  So two parsers of which one has no negotiator keep step
through every record, and what is left of an earlier record in one of them does
not matter either.
-/

namespace Pure3270

open Foundations

namespace DataStreamParser

/-- The parsers differ in whom they call at most. -/
abbrev Companions : DataStreamParser → DataStreamParser → Prop := Alike Eq False

/-- The parsers differ in whom they call and in the record they have read last. -/
def SameButRecord (left right : DataStreamParser) : Prop :=
  ∃ data pos parserPos hasNegotiator calls,
    right = { left with data, pos, parserPos, hasNegotiator, calls }

theorem SameButRecord.refl (parser : DataStreamParser) : SameButRecord parser parser :=
  ⟨_, _, _, _, _, rfl⟩

theorem SameButRecord.symm {left right : DataStreamParser}
    (same : SameButRecord left right) : SameButRecord right left := by
  obtain ⟨data, pos, parserPos, hasNegotiator, calls, rfl⟩ := same
  exact ⟨_, _, _, _, _, rfl⟩

theorem SameButRecord.trans {left middle right : DataStreamParser}
    (first : SameButRecord left middle) (second : SameButRecord middle right) :
    SameButRecord left right := by
  obtain ⟨data, pos, parserPos, hasNegotiator, calls, rfl⟩ := first
  obtain ⟨data', pos', parserPos', hasNegotiator', calls', rfl⟩ := second
  exact ⟨_, _, _, _, _, rfl⟩

theorem SameButRecord.screen {left right : DataStreamParser}
    (same : SameButRecord left right) : right.screen = left.screen := by
  obtain ⟨data, pos, parserPos, hasNegotiator, calls, rfl⟩ := same
  rfl

theorem Companions.sameButRecord {left right : DataStreamParser}
    (companions : Companions left right) : SameButRecord left right := by
  obtain ⟨_, hasNegotiator, calls, rfl, rfl, -⟩ := companions
  exact ⟨_, _, _, _, _, rfl⟩

/-- The whole screen may be read. -/
theorem getBind_companions {f : DataStreamParser → ParserM β}
    (same : ∀ parser hasNegotiator calls,
      f { parser with hasNegotiator, calls } = f parser)
    (next : ∀ parser, RunsAlike Eq False (f parser)) :
    RunsAlike Eq False (get >>= f) := by
  rintro left _ ⟨_, hasNegotiator, calls, rfl, rfl, none⟩
  apply LockstepAt.getBind
  have seen := same left hasNegotiator calls
  rw [seen]
  exact next left ⟨_, hasNegotiator, calls, rfl, rfl, none⟩

theorem modifyScreen_companions (f : ScreenBuffer → ScreenBuffer) :
    RunsAlike Eq False (modifyScreen f) := by
  rintro left _ ⟨_, hasNegotiator, calls, rfl, rfl, none⟩
  exact .modify ⟨_, hasNegotiator, calls, rfl, rfl, none⟩

theorem handleEua_companions : RunsAlike Eq False handleEua := by
  refine Lockstep.bind (validateMinData_alike "EUA" 2) fun _ => ?_
  refine getBind_companions (fun _ _ _ => rfl) fun before => ?_
  refine Lockstep.bind readAddress_alike fun address => ?_
  cases before.screen.targetOf address before.addressingMode with
  | none => exact pure_alike ()
  | some target =>
      exact Lockstep.bind (modifyScreen_companions _) fun _ => setPosition_alike _ _

theorem dispatch_companions (byte : UInt8) : RunsAlike Eq False (dispatch byte) := by
  by_cases looks : looksUp byte = true
  · have cases : byte = 0x12 ∨ byte = 0x13 ∨ byte = 0x05 := by
      simpa [looksUp] using looks
    rcases cases with rfl | rfl | rfl
    · exact Lockstep.bind handleEua_companions fun _ => mirrorPos_alike
    · exact Lockstep.bind (modifyScreen_companions _) fun _ => mirrorPos_alike
    · exact Lockstep.bind (modifyScreen_companions _) fun _ => mirrorPos_alike
  · exact dispatch_alike (by simpa using looks)

theorem processByte_companions : RunsAlike Eq False processByte :=
  Lockstep.bind parserReadByte_alike fun byte => dispatch_companions byte

theorem parseLoop_companions (snapshot : Option ScreenSnapshot) :
    RunsAlike Eq False (parseLoop snapshot) :=
  fun companions =>
    parseLoop_alike (fun kept _ => processByte_companions kept) companions
      fun _ _ _ _ _ => trivial

theorem handleWccWithByte_companions (wcc : UInt8) :
    RunsAlike Eq False (handleWccWithByte wcc) := by
  refine Lockstep.bind (modify_alike fun _ _ _ _ => rfl) fun _ => ?_
  exact ite_alike
    (Lockstep.bind (modifyScreen_companions _) fun _ => setPosition_alike 0 0)
    (setPosition_alike 0 0)

theorem handleWrite_companions : RunsAlike Eq False (handleWrite true) := by
  refine Lockstep.bind (modifyScreen_companions _) fun _ => ?_
  refine Lockstep.bind (setPosition_alike 0 0) fun _ => ?_
  refine getBind_companions (fun _ _ _ => rfl) fun _ => ?_
  exact ite_alike (modifyScreen_companions _) (pure_alike ())

theorem parseWrite_companions (command : UInt8) (snapshot : ScreenSnapshot) :
    RunsAlike Eq False (parseWrite command snapshot) := by
  refine Lockstep.bind handleWrite_companions fun _ => ?_
  refine getBind_companions (fun _ _ _ => rfl) fun _ => ite_alike ?_ ?_
  · refine Lockstep.bind parserReadByte_alike fun wcc => ?_
    refine Lockstep.bind (handleWccWithByte_companions wcc) fun _ => ?_
    exact Lockstep.bind mirrorPos_alike fun _ => parseLoop_companions _
  · exact ite_alike (pure_alike _) (throw_alike _)

theorem parseRecord_companions : RunsAlike Eq False parseRecord := by
  refine getBind_companions (fun _ _ _ => rfl) fun parser => ?_
  refine ite_alike (pure_alike _) ?_
  refine Lockstep.bind parserReadByte_alike fun firstByte => ite_alike ?_ ?_
  · exact Lockstep.tryCatch (parseWrite_companions firstByte _)
      fun fault => handleParseError_alike _ fault
  · refine Lockstep.tryCatch ?_ fun fault => handleParseError_alike _ fault
    refine Lockstep.bind (handleWccWithByte_companions firstByte) fun _ => ?_
    exact Lockstep.bind mirrorPos_alike fun _ => parseLoop_companions _

theorem endBulkMode_companions (bulkMode : Bool) :
    RunsAlike Eq False (endBulkMode bulkMode) :=
  ite_alike (modifyScreen_companions _) (pure_alike ())

theorem parseRecord_ended_companions (bulkMode : Bool) :
    RunsAlike Eq False (do
      let exit ← tryCatch parseRecord fun fault => do
        endBulkMode bulkMode
        throw fault
      endBulkMode bulkMode
      return exit) := by
  refine Lockstep.bind (Lockstep.tryCatch parseRecord_companions fun fault => ?_)
    fun _ => ?_
  · exact Lockstep.bind (endBulkMode_companions bulkMode) fun _ => throw_alike fault
  · exact Lockstep.bind (endBulkMode_companions bulkMode) fun _ => pure_alike _

theorem parseTn3270_companions (bulkMode : Bool) :
    RunsAlike Eq False (parseTn3270 bulkMode) := by
  refine Lockstep.bind (modifyScreen_companions _) fun _ => ?_
  refine Lockstep.bind (modify_alike fun _ _ _ _ => rfl) fun _ => ?_
  refine Lockstep.bind (setPosition_alike 0 0) fun _ => ?_
  exact ite_alike
    (Lockstep.bind (modifyScreen_companions _) fun _ =>
      parseRecord_ended_companions bulkMode)
    (parseRecord_ended_companions bulkMode)

theorem handleRequest_companions (data : List UInt8) :
    RunsAlike Eq False (handleRequest data) := by
  refine getBind_companions (fun _ _ _ => rfl) fun _ => ?_
  cases data with
  | nil => exact pure_alike ()
  | cons requestFlags rest => exact ite_alike (call_alike _) (pure_alike ())

/-- What `parse` does once the record has been taken up. -/
theorem parse_companions (data : List UInt8) (dataType : UInt8)
    {left right : DataStreamParser} (same : SameButRecord left right) :
    SameExit Companions (parse data dataType left) (parse data dataType right) := by
  obtain ⟨data', pos, parserPos, hasNegotiator, calls, rfl⟩ := same
  have started : LockstepAt Companions
      (modify fun parser : DataStreamParser =>
        { parser with data, parserPos := 0, pos := 0 } : ParserM Unit)
      (modify fun parser : DataStreamParser =>
        { parser with data, parserPos := 0, pos := 0 }) left
      { left with data := data', pos, parserPos, hasNegotiator, calls } :=
    .modify ⟨_, hasNegotiator, calls, rfl, rfl, False.elim⟩
  refine started.bind fun _ _ _ _ _ kept => ?_
  refine getBind_companions (fun _ _ _ => rfl) (fun parser => ?_) kept
  refine ite_alike ?_ (ite_alike (pure_alike _) (ite_alike ?_ (ite_alike ?_
    (ite_alike ?_ (ite_alike (pure_alike _) (ite_alike ?_ (ite_alike (pure_alike _)
      (ite_alike ?_ (parseTn3270_companions _)))))))))
  · refine Lockstep.bind (swallow_alike (writeToPrinter_alike data)) fun _ => ?_
    exact Lockstep.bind (modify_alike fun _ _ _ _ => rfl) fun _ => pure_alike _
  · exact ite_alike (Lockstep.bind (call_alike _) fun _ => pure_alike _) (pure_alike _)
  · exact Lockstep.bind (callNegotiator_alike _) fun _ => pure_alike _
  · exact Lockstep.bind (callNegotiator_alike _) fun _ => pure_alike _
  · exact Lockstep.bind (modifyScreen_companions _) fun _ => pure_alike _
  · exact Lockstep.bind (handleRequest_companions data) fun _ => pure_alike _

theorem SameButRecord.parse {left right : DataStreamParser}
    (same : SameButRecord left right) (data : List UInt8) (dataType : UInt8) :
    SameButRecord (finalState (parse data dataType left))
      (finalState (parse data dataType right)) :=
  Companions.sameButRecord (parse_companions data dataType same).finalState

/-- The data types of which the parser makes nothing that can be seen. -/
def ignoredTypes : List UInt8 := [0x02, 0x03, 0x04, 0x06, 0x07, 0x08, 0x09]

instance : IsPreorder DataStreamParser SameButRecord where
  refl := SameButRecord.refl
  trans _ _ _ := SameButRecord.trans

theorem call_sameButRecord (made : CollaboratorCall) :
    Within SameButRecord (call made) :=
  fun _ => ⟨_, _, _, _, _, rfl⟩

theorem callIf_sameButRecord (condition : DataStreamParser → Prop)
    [DecidablePred condition] (made : CollaboratorCall) :
    Within SameButRecord (do
      let parser ← get
      if condition parser then call made) :=
  fun parser => WithinAt.getBind
    (WithinAt.ite (fun _ => call_sameButRecord made parser) fun _ => WithinAt.pure ())

theorem handleRequest_sameButRecord (data : List UInt8) :
    Within SameButRecord (handleRequest data) := by
  cases data with
  | nil => exact fun _ => WithinAt.getBind (WithinAt.pure ())
  | cons requestFlags rest =>
      exact callIf_sameButRecord
        (fun parser => requestFlags &&& 0x01 ≠ 0 ∧ parser.printer.isSome) _

/-- A record of such a type leaves no more than its data and some calls behind. -/
theorem parse_ignoredType {dataType : UInt8} (ignored : dataType ∈ ignoredTypes)
    (data : List UInt8) (parser : DataStreamParser) :
    SameButRecord parser (finalState (parse data dataType parser)) := by
  have started : SameButRecord parser { parser with data, parserPos := 0, pos := 0 } :=
    ⟨_, _, _, _, _, rfl⟩
  refine started.trans ?_
  simp only [ignoredTypes, List.mem_cons, List.not_mem_nil, or_false] at ignored
  have ended : ∀ {m : ParserM Unit}, Within SameButRecord m →
      Within SameButRecord (m >>= fun _ => pure ParseExit.ignored) :=
    fun within => Within.bind within fun _ _ => WithinAt.pure _
  rcases ignored with rfl | rfl | rfl | rfl | rfl | rfl | rfl
  · exact ⟨_, _, _, _, _, rfl⟩
  · exact ended (callIf_sameButRecord (·.hasNegotiator = true) _) _
  · exact ⟨_, _, _, _, _, rfl⟩
  · exact ended (handleRequest_sameButRecord data) _
  · exact ⟨_, _, _, _, _, rfl⟩
  · exact (WithinAt.ite (fun _ => ended (call_sameButRecord .endJob) _)
      fun _ => WithinAt.pure _ : WithinAt SameButRecord
        (if parser.printer.isSome = true then do
          call .endJob
          return ParseExit.ignored
        else return .ignored) _)
  · exact ended (callIf_sameButRecord (·.hasNegotiator = true) _) _

end DataStreamParser

end Pure3270

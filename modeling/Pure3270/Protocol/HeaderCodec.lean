import Pure3270.Foundations.Runs
import Pure3270.Protocol.Tn3270eHeader

/-!
# Writing and reading headers

A header that is written is read back, except the one whose five bytes are
zero: that one is taken for malformed data.  The flags of extended addressing
are bits of a header that callers set and clear before it is written.
-/

namespace Pure3270

open Foundations

/-- A call that changes a flag of extended addressing. -/
inductive AddressingFlagCall where
  | setExtendedAddressingRequest (enabled : Bool)
  | setExtendedAddressingResponse (enabled : Bool)
  deriving DecidableEq

namespace Tn3270eHeader

abbrev requestExtendedAddressing : UInt8 := 0x80
abbrev responseExtendedAddressing : UInt8 := 0x80

def setExtendedAddressingRequest (enabled : Bool) (header : Tn3270eHeader) :
    Tn3270eHeader :=
  { header with
    requestFlag :=
      if enabled then header.requestFlag ||| requestExtendedAddressing
      else header.requestFlag &&& ~~~requestExtendedAddressing }

def setExtendedAddressingResponse (enabled : Bool) (header : Tn3270eHeader) :
    Tn3270eHeader :=
  { header with
    responseFlag :=
      if enabled then header.responseFlag ||| responseExtendedAddressing
      else header.responseFlag &&& ~~~responseExtendedAddressing }

def call : AddressingFlagCall → Tn3270eHeader → Tn3270eHeader
  | .setExtendedAddressingRequest enabled => setExtendedAddressingRequest enabled
  | .setExtendedAddressingResponse enabled => setExtendedAddressingResponse enabled

/-- The response flags of RFC 2355. -/
def ResponseFlagKnown (header : Tn3270eHeader) : Prop :=
  header.responseFlag ∈ [rsfNoResponse, rsfErrorResponse, rsfAlwaysResponse]

instance (header : Tn3270eHeader) : Decidable header.ResponseFlagKnown :=
  inferInstanceAs (Decidable (_ ∈ _))

/-- Whether a call enables the response flag, for the calls that are about it. -/
def enablesResponse : AddressingFlagCall → Option Bool
  | .setExtendedAddressingRequest _ => none
  | .setExtendedAddressingResponse enabled => some enabled

/-- What the last call about the response flag enables. -/
def lastResponse (calls : List AddressingFlagCall) : Option Bool :=
  (calls.filterMap enablesResponse).getLast?

theorem lastResponse_cons (first : AddressingFlagCall) (calls : List AddressingFlagCall) :
    lastResponse (first :: calls) = (lastResponse calls).or (enablesResponse first) := by
  unfold lastResponse
  cases response : enablesResponse first with
  | none => rw [List.filterMap_cons_none response, Option.or_none]
  | some enabled =>
      rw [List.filterMap_cons_some response, List.getLast?_cons]
      cases (calls.filterMap enablesResponse).getLast? with
      | none => rfl
      | some _ => rfl

/-- A known response flag, whose highest bit may be set. -/
def ResponseFlagMarked (header : Tn3270eHeader) : Prop :=
  header.ResponseFlagKnown ∨
    header.responseFlag ∈ [rsfNoResponse ||| responseExtendedAddressing,
      rsfErrorResponse ||| responseExtendedAddressing,
      rsfAlwaysResponse ||| responseExtendedAddressing]

theorem disabled_known {header : Tn3270eHeader} (marked : header.ResponseFlagMarked) :
    (header.setExtendedAddressingResponse false).ResponseFlagKnown := by
  show header.responseFlag &&& ~~~responseExtendedAddressing ∈ _
  simp only [ResponseFlagMarked, ResponseFlagKnown, List.mem_cons, List.not_mem_nil,
    or_false] at marked
  rcases marked with (flag | flag | flag) | (flag | flag | flag) <;> rw [flag] <;> decide

theorem call_marked (made : AddressingFlagCall) {header : Tn3270eHeader}
    (marked : header.ResponseFlagMarked) : (call made header).ResponseFlagMarked := by
  cases made with
  | setExtendedAddressingRequest enabled => exact marked
  | setExtendedAddressingResponse enabled =>
      cases enabled with
      | false => exact .inl (disabled_known marked)
      | true =>
          right
          show header.responseFlag ||| responseExtendedAddressing ∈ _
          simp only [ResponseFlagMarked, ResponseFlagKnown, List.mem_cons,
            List.not_mem_nil, or_false] at marked
          rcases marked with (flag | flag | flag) | (flag | flag | flag) <;>
            rw [flag] <;> decide

theorem run_known {calls : List AddressingFlagCall} {header : Tn3270eHeader}
    (marked : header.ResponseFlagMarked) (cleared : lastResponse calls ≠ some true)
    (known : lastResponse calls = none → header.ResponseFlagKnown) :
    (run call calls header).ResponseFlagKnown := by
  induction calls generalizing header with
  | nil => exact known rfl
  | cons first calls ih =>
      rw [lastResponse_cons] at cleared known
      apply ih (call_marked first marked)
      · intro enabled
        exact cleared (by rw [enabled]; rfl)
      · intro silent
        rw [silent, Option.none_or] at cleared known
        cases first with
        | setExtendedAddressingRequest enabled => exact known rfl
        | setExtendedAddressingResponse enabled =>
            cases enabled with
            | false => exact disabled_known marked
            | true => exact absurd rfl cleared

/-- Five bytes that are read are written again. -/
theorem toBytes_of_five {data : List UInt8} (five : data.length = 5)
    {header : Tn3270eHeader} (found : fromBytes data = some header) :
    header.toBytes = data := by
  obtain ⟨-, rest, split⟩ := toBytes_of_fromBytes found
  have lengths := congrArg List.length split
  rw [List.length_append, length_toBytes, five] at lengths
  have nothing : rest = [] := List.length_eq_zero_iff.mp (by omega)
  rw [split, nothing, List.append_nil]

/-- A header with a known response flag is read back after any calls about its
flags that leave no bit in the response flag, unless it is all zeros; and five
bytes that are read are written again. -/
theorem header_roundTrip (header : Tn3270eHeader) (known : header.ResponseFlagKnown)
    (calls : List AddressingFlagCall) (cleared : lastResponse calls ≠ some true)
    (nonzero : run call calls header ≠ ⟨0, 0, 0, 0⟩) :
    fromBytes (run call calls header).toBytes = some (run call calls header) ∧
      ∀ data : List UInt8, data.length = 5 → ∀ found, fromBytes data = some found →
        found.toBytes = data := by
  constructor
  · have accepted : (run call calls header).Accepted :=
      ⟨run_known (.inl known) cleared fun _ => known, nonzero⟩
    have read := fromBytes_toBytes accepted []
    rw [List.append_nil] at read
    exact read
  · intro data five found read
    exact toBytes_of_five five read

/-- SCS data that offers extended addressing. -/
theorem header_roundTrip_scs :
    fromBytes [0x01, 0x80, 0x02, 0x01, 0x00] = some ⟨0x01, 0x80, 0x02, 0x0100⟩ :=
  (header_roundTrip ⟨0x01, 0x00, 0x02, 0x0100⟩ (by decide)
    [.setExtendedAddressingRequest true, .setExtendedAddressingResponse true,
      .setExtendedAddressingResponse false] (by decide) (by decide)).1

/-- The header of data without flags at the start of a session is turned down. -/
theorem not_roundTrip_zeros :
    ¬ ∀ header : Tn3270eHeader, header.ResponseFlagKnown →
      ∀ calls, fromBytes (run call calls header).toBytes = some (run call calls header) := by
  intro claimed
  have read := claimed ⟨tn3270Data, 0, rsfNoResponse, 0⟩ (by decide) []
  cases read

end Tn3270eHeader

end Pure3270

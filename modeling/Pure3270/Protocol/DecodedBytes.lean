import Mathlib.Data.List.Basic
import Pure3270.Protocol.TelnetStream

/-!
# Decoded bytes read once more

The Telnet layer never yields more bytes than it is given, and it yields fewer
wherever it reads an escape or a command.  So bytes that are put through it
come out as they are only when it takes every one of them for itself.
-/

namespace Pure3270

open Foundations

namespace Telnet

theorem cleaned_cons_data (byte : UInt8) (events : List TelnetEvent) :
    cleaned (.data byte :: events) = byte :: cleaned events := rfl

theorem cleaned_cons_call (made : TelnetCall) (events : List TelnetEvent) :
    cleaned (.call made :: events) = cleaned events := rfl

/-- How many bytes an event yields. -/
def yields : TelnetEvent → Nat
  | .data _ => 1
  | .call _ => 0

theorem length_cleaned (events : List TelnetEvent) :
    (cleaned events).length = (events.map yields).sum := by
  induction events with
  | nil => rfl
  | cons event events ih =>
      cases event with
      | data byte =>
          rw [cleaned_cons_data, List.length_cons, List.map_cons, List.sum_cons, ih]
          exact Nat.add_comm _ _
      | call made =>
          rw [cleaned_cons_call, List.map_cons, List.sum_cons, ih]
          exact (Nat.zero_add _).symm

theorem Complete.scans {input : List UInt8} {event : TelnetEvent} {count : Nat}
    (complete : Complete input event count) :
    tokenizer.token input = some (event, count) :=
  complete.token_eq

theorem yields_le {input : List UInt8} {event : TelnetEvent} {count : Nat}
    (found : token input = some (event, count)) : yields event ≤ count := by
  cases complete_of_token found with
  | data => exact Nat.le_refl 1
  | escaped => exact Nat.le_succ 1
  | negotiation => exact Nat.zero_le _
  | subnegotiation => exact Nat.zero_le _
  | command => exact Nat.zero_le _

theorem length_cleaned_le (input : List UInt8) :
    (cleaned (tokenizer.scan input).1).length ≤ input.length := by
  rw [length_cleaned]
  exact tokenizer.scan_weight yields_le input

theorem scan_plain {byte : UInt8} (plain : byte ≠ iac) (rest : List UInt8) :
    cleaned (tokenizer.scan (byte :: rest)).1 =
      byte :: cleaned (tokenizer.scan rest).1 := by
  rw [tokenizer.scan_some (Complete.data plain rest).scans]
  rfl

/-- Bytes without IAC are data, every one of them. -/
theorem scan_of_not_mem {payload : List UInt8} (absent : iac ∉ payload) :
    tokenizer.scan payload = (payload.map .data, []) := by
  induction payload with
  | nil => exact tokenizer.scan_none tokenizer.token_nil
  | cons byte payload ih =>
      have plain : byte ≠ iac := fun same => absent (same ▸ List.mem_cons_self)
      have later := ih fun present => absent (List.mem_cons_of_mem _ present)
      rw [tokenizer.scan_some (Complete.data plain payload).scans, List.drop_one,
        List.tail_cons, later]
      rfl

theorem cleaned_data (payload : List UInt8) :
    cleaned (payload.map .data) = payload := by
  induction payload with
  | nil => rfl
  | cons byte payload ih => rw [List.map_cons, cleaned_cons_data, ih]

/-- A command or an escape yields less than it takes. -/
theorem length_cleaned_iac (rest : List UInt8) :
    (cleaned (tokenizer.scan (iac :: rest)).1).length < (iac :: rest).length := by
  cases found : tokenizer.token (iac :: rest) with
  | none =>
      rw [tokenizer.scan_none found]
      exact Nat.zero_lt_succ _
  | some pair =>
      obtain ⟨event, count⟩ := pair
      have taken := tokenizer.consumes found
      have later := length_cleaned_le ((iac :: rest).drop count)
      have complete : Complete (iac :: rest) event count := complete_of_token found
      have less : yields event < count := by
        cases complete with
        | data plain => exact absurd rfl plain
        | escaped => exact Nat.lt_succ_self 1
        | negotiation => exact Nat.zero_lt_succ _
        | subnegotiation => exact Nat.zero_lt_succ _
        | command => exact Nat.zero_lt_succ _
      rw [List.length_drop, length_cleaned] at later
      rw [tokenizer.scan_some found, length_cleaned, List.map_cons, List.sum_cons]
      omega

/-- Decoding leaves bytes as they are exactly when no IAC is among them. -/
theorem cleaned_scan_eq_self_iff (payload : List UInt8) :
    cleaned (tokenizer.scan payload).1 = payload ↔ iac ∉ payload := by
  constructor
  · intro same present
    induction payload with
    | nil => cases present
    | cons byte payload ih =>
        by_cases plain : byte = iac
        · have shorter := length_cleaned_iac payload
          rw [plain] at same
          rw [same] at shorter
          exact absurd shorter (Nat.lt_irrefl _)
        · rw [scan_plain plain] at same
          injection same with _ same
          rcases List.mem_cons.mp present with here | later
          · exact plain here.symm
          · exact ih same later
  · intro absent
    rw [scan_of_not_mem absent, cleaned_data]

/-- An incomplete sequence is completed beyond its end only. -/
theorem length_lt_count {kept more : List UInt8} {event : TelnetEvent} {count : Nat}
    (incomplete : tokenizer.token kept = none)
    (found : tokenizer.token (kept ++ more) = some (event, count)) : kept.length < count := by
  by_contra short
  have inside : count ≤ kept.length := Nat.not_lt.mp short
  have complete : Complete kept event count := by
    generalize whole : kept ++ more = input at found
    cases complete_of_token found with
    | data plain rest =>
        cases kept with
        | nil => exact absurd inside (by decide)
        | cons first kept =>
            injection whole with same
            rw [same]
            exact .data plain kept
    | escaped rest =>
        match kept, inside with
        | first :: second :: kept, _ =>
            injection whole with same whole
            injection whole with again
            rw [same, again]
            exact .escaped kept
    | negotiation verb option rest =>
        match kept, inside with
        | first :: second :: third :: kept, _ =>
            injection whole with same whole
            injection whole with again whole
            injection whole with last
            rw [same, again, last]
            exact .negotiation verb option kept
    | @subnegotiation option subPayload seIndex ends =>
        match kept, inside with
        | first :: second :: third :: kept, inside =>
            injection whole with same whole
            injection whole with again whole
            injection whole with last whole
            change kept ++ more = subPayload at whole
            have short : seIndex + 2 ≤ (third :: kept).length :=
              Nat.le_of_succ_le_succ (Nat.le_of_succ_le_succ inside)
            rw [← whole, ← List.cons_append] at ends
            have early := (@findSe_append_iff (option :: kept) more seIndex short).mp ends
            rw [List.length_cons] at short
            have front : subPayload.take (seIndex - 1) = kept.take (seIndex - 1) := by
              rw [← whole]
              exact List.take_append_of_le_length (by omega)
            rw [same, again, last, front]
            exact .subnegotiation early
    | command plain noVerb noSb rest =>
        match kept, inside with
        | first :: second :: kept, _ =>
            injection whole with same whole
            injection whole with again
            rw [same, again]
            exact .command plain noVerb noSb kept
  rw [complete.scans] at incomplete
  cases incomplete

/-- What is decoded behind an incomplete sequence is no longer than what was put
there. -/
theorem length_cleaned_behind {kept : List UInt8} (incomplete : tokenizer.token kept = none)
    (payload : List UInt8) :
    (cleaned (tokenizer.scan (kept ++ payload)).1).length ≤ payload.length := by
  cases found : tokenizer.token (kept ++ payload) with
  | none =>
      rw [tokenizer.scan_none found]
      exact Nat.zero_le _
  | some pair =>
      obtain ⟨event, count⟩ := pair
      have taken := tokenizer.consumes found
      have beyond := length_lt_count incomplete found
      have later := length_cleaned_le ((kept ++ payload).drop count)
      have few : yields event ≤ 1 := by
        cases event with
        | data => exact Nat.le_refl 1
        | call => exact Nat.zero_le 1
      rw [List.length_drop, length_cleaned, List.length_append] at later
      rw [List.length_append] at taken
      rw [tokenizer.scan_some found, length_cleaned, List.map_cons, List.sum_cons]
      omega

/-- The bytes come out as they are: nothing was kept and no IAC is among them, or
a lone IAC was kept and the only one among them comes first. -/
def DecodesToItself (kept payload : List UInt8) : Prop :=
  kept = [] ∧ iac ∉ payload ∨
    kept = [iac] ∧ ∃ rest, payload = iac :: rest ∧ iac ∉ rest

theorem DecodesToItself.scan {kept payload : List UInt8}
    (itself : DecodesToItself kept payload) :
    tokenizer.scan (kept ++ payload) = (payload.map .data, []) := by
  rcases itself with ⟨rfl, absent⟩ | ⟨rfl, rest, rfl, absent⟩
  · exact scan_of_not_mem absent
  · show tokenizer.scan (iac :: iac :: rest) = _
    rw [tokenizer.scan_some (Complete.escaped rest).scans]
    show (_ :: (tokenizer.scan rest).1, (tokenizer.scan rest).2) = _
    rw [scan_of_not_mem absent]
    rfl

/-- Behind an incomplete sequence, decoding leaves bytes as they are in these two
cases only. -/
theorem cleaned_behind_eq_iff {kept : List UInt8} (incomplete : tokenizer.token kept = none)
    {payload : List UInt8} (nonempty : payload ≠ []) :
    cleaned (tokenizer.scan (kept ++ payload)).1 = payload ↔
      DecodesToItself kept payload := by
  cases kept with
  | nil =>
      rw [List.nil_append, cleaned_scan_eq_self_iff]
      constructor
      · exact fun absent => .inl ⟨rfl, absent⟩
      · rintro (⟨-, absent⟩ | ⟨lone, -⟩)
        · exact absent
        · cases lone
  | cons first kept =>
      have isIac : first = iac := by
        by_contra plain
        rw [(Complete.data plain kept).scans] at incomplete
        cases incomplete
      subst isIac
      constructor
      · intro same
        right
        have length := congrArg List.length same
        cases found : tokenizer.token (iac :: kept ++ payload) with
        | none =>
            rw [tokenizer.scan_none found] at same
            exact absurd same.symm nonempty
        | some pair =>
            obtain ⟨event, count⟩ := pair
            have taken := tokenizer.consumes found
            have beyond := length_lt_count incomplete found
            have later := length_cleaned_le ((iac :: kept ++ payload).drop count)
            rw [List.length_drop, length_cleaned, List.length_append] at later
            rw [List.length_append] at taken
            rw [tokenizer.scan_some found, length_cleaned, List.map_cons,
              List.sum_cons] at length
            rw [List.length_cons] at beyond later taken
            rw [tokenizer.scan_some found] at same
            generalize whole : iac :: kept ++ payload = input at found same
            -- Only the escape yields a byte for what lies beyond the sequence.
            cases complete_of_token found with
            | data plain =>
                injection whole with first
                exact absurd first.symm plain
            | escaped rest =>
                obtain rfl : kept = [] :=
                  List.eq_nil_of_length_eq_zero (by omega)
                obtain rfl : payload = iac :: rest := List.cons.inj whole |>.2
                refine ⟨rfl, rest, rfl, ?_⟩
                injection same with _ same
                exact (cleaned_scan_eq_self_iff rest).mp same
            | negotiation =>
                simp only [yields] at length
                omega
            | subnegotiation =>
                simp only [yields] at length
                omega
            | command =>
                simp only [yields] at length
                omega
      · intro itself
        rw [itself.scan, cleaned_data]

end Telnet

end Pure3270

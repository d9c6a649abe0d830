import Mathlib.Data.List.Infix
import Pure3270.Foundations.Tokenizer

/-!
# The Telnet layer

A chunk from the network is data with Telnet commands between.  Commands are
handed on in the order in which they stand, escaped bytes are restored, and an
incomplete sequence at the end of a chunk is kept for the next one.
-/

namespace Pure3270

open Foundations

/-- What the Telnet layer calls while it reads a chunk. -/
inductive TelnetCall where
  | handleIacCommand (cmd option : UInt8)
  | handleSubnegotiation (option : UInt8) (subPayload : List UInt8)
  | handleTelnetCommand (cmd : UInt8)
  deriving DecidableEq, Repr

/-- The Telnet state of a handler, and the calls it has made. -/
structure TelnetStream where
  telnetBuffer : List UInt8
  calls : List TelnetCall
  deriving DecidableEq, Repr

/-- What one round of the scanning loop yields: a byte of data or a call. -/
inductive TelnetEvent where
  | data (byte : UInt8)
  | call (made : TelnetCall)
  deriving DecidableEq, Repr

namespace Telnet

abbrev iac : UInt8 := 0xFF
abbrev se : UInt8 := 0xF0
abbrev sb : UInt8 := 0xFA

/-- DO, DONT, WILL and WONT. -/
def isNegotiation (cmd : UInt8) : Bool :=
  cmd ∈ [0xFD, 0xFE, 0xFB, 0xFC]

/-- The index of the first IAC SE. -/
def findSe : List UInt8 → Option Nat
  | first :: second :: rest =>
      if first = iac ∧ second = se then some 0
      else (findSe (second :: rest)).map (· + 1)
  | _ => none

/-- One round of `_process_telnet_stream` on the bytes from its index on; `none`
where the source keeps the bytes for the next chunk. -/
def token : List UInt8 → Option (TelnetEvent × Nat)
  | [] => none
  | byte :: rest =>
      if byte ≠ iac then some (.data byte, 1)
      else
        match rest with
        | [] => none
        | cmd :: body =>
            if cmd = iac then some (.data iac, 2)
            else if isNegotiation cmd then
              match body with
              | [] => none
              | option :: _ => some (.call (.handleIacCommand cmd option), 3)
            else if cmd = sb then
              match findSe body, body with
              | some seIndex, option :: subPayload =>
                  some (.call (.handleSubnegotiation option
                    (subPayload.take (seIndex - 1))), seIndex + 4)
              | _, _ => none
            else some (.call (.handleTelnetCommand cmd), 2)

theorem findSe_cons {first : UInt8} (bytes : List UInt8) :
    findSe (first :: bytes) =
      if [iac, se] <+: first :: bytes then some 0 else (findSe bytes).map (· + 1) := by
  cases bytes with
  | nil =>
      rw [if_neg fun stands => absurd stands.length_le (by decide : ¬ 2 ≤ 1)]
      rfl
  | cons second rest =>
      rw [findSe]
      refine if_congr ?_ rfl rfl
      rw [List.cons_prefix_cons, List.cons_prefix_cons, eq_comm, and_iff_left (List.nil_prefix)]
      exact and_congr_right fun _ => eq_comm

theorem findSe_iff {bytes : List UInt8} {index : Nat} :
    findSe bytes = some index ↔
      [iac, se] <+: bytes.drop index ∧
        ∀ earlier < index, ¬ [iac, se] <+: bytes.drop earlier := by
  induction bytes generalizing index with
  | nil => simp [findSe]
  | cons first bytes ih =>
      rw [findSe_cons]
      by_cases here : [iac, se] <+: first :: bytes
      · rw [if_pos here, Option.some.injEq]
        constructor
        · rintro rfl
          exact ⟨here, fun earlier below => absurd below (Nat.not_lt_zero earlier)⟩
        · rintro ⟨_, nothing⟩
          by_contra later
          exact nothing 0 (Nat.pos_of_ne_zero (Ne.symm later)) here
      · rw [if_neg here]
        cases index with
        | zero => simp [here]
        | succ index =>
            simp only [Option.map_eq_some_iff, Nat.add_right_cancel_iff, exists_eq_right, ih,
              List.drop_succ_cons]
            refine and_congr_right fun _ => ⟨fun nothing earlier below => ?_,
              fun nothing earlier below => nothing (earlier + 1) (Nat.succ_lt_succ below)⟩
            cases earlier with
            | zero => exact here
            | succ earlier => exact nothing earlier (Nat.lt_of_succ_lt_succ below)

theorem findSe_split {bytes : List UInt8} {index : Nat}
    (found : findSe bytes = some index) :
    ∃ rest, bytes.drop index = iac :: se :: rest := by
  obtain ⟨rest, split⟩ := (findSe_iff.mp found).1
  exact ⟨rest, split.symm⟩

theorem findSe_bound {bytes : List UInt8} {index : Nat}
    (found : findSe bytes = some index) : index + 2 ≤ bytes.length := by
  obtain ⟨rest, split⟩ := findSe_split found
  have left := congrArg List.length split
  simp only [List.length_drop, List.length_cons] at left
  omega

theorem prefix_drop_append_iff {word text more : List UInt8} {index : Nat}
    (inside : index + word.length ≤ text.length) :
    word <+: (text ++ more).drop index ↔ word <+: text.drop index := by
  rw [List.drop_append_of_le_length (by omega)]
  constructor
  · intro stands
    refine List.prefix_of_prefix_length_le stands (List.prefix_append _ _) ?_
    rw [List.length_drop]
    omega
  · exact fun stands => stands.trans (List.prefix_append _ _)

/-- What follows behind the place does not matter. -/
theorem findSe_append_iff {bytes more : List UInt8} {index : Nat}
    (inside : index + 2 ≤ bytes.length) :
    findSe (bytes ++ more) = some index ↔ findSe bytes = some index := by
  rw [findSe_iff, findSe_iff, prefix_drop_append_iff inside]
  refine and_congr_right fun _ => forall₂_congr fun earlier below => not_congr ?_
  exact prefix_drop_append_iff (by simp only [List.length_cons, List.length_nil]; omega)

theorem findSe_append {bytes : List UInt8} {index : Nat} (more : List UInt8)
    (found : findSe bytes = some index) : findSe (bytes ++ more) = some index :=
  (findSe_append_iff (findSe_bound found)).mpr found

/-- The complete sequences, one constructor for each branch of the loop that
goes on. -/
inductive Complete : List UInt8 → TelnetEvent → Nat → Prop where
  | data {byte : UInt8} (plain : byte ≠ iac) (rest : List UInt8) :
      Complete (byte :: rest) (.data byte) 1
  | escaped (rest : List UInt8) : Complete (iac :: iac :: rest) (.data iac) 2
  | negotiation {cmd : UInt8} (verb : isNegotiation cmd = true) (option : UInt8)
      (rest : List UInt8) :
      Complete (iac :: cmd :: option :: rest)
        (.call (.handleIacCommand cmd option)) 3
  | subnegotiation {option : UInt8} {subPayload : List UInt8} {seIndex : Nat}
      (ends : findSe (option :: subPayload) = some seIndex) :
      Complete (iac :: sb :: option :: subPayload)
        (.call (.handleSubnegotiation option (subPayload.take (seIndex - 1))))
        (seIndex + 4)
  | command {cmd : UInt8} (plain : cmd ≠ iac) (noVerb : isNegotiation cmd = false)
      (noSb : cmd ≠ sb) (rest : List UInt8) :
      Complete (iac :: cmd :: rest) (.call (.handleTelnetCommand cmd)) 2

theorem Complete.token_eq {input : List UInt8} {out : TelnetEvent} {count : Nat}
    (complete : Complete input out count) : token input = some (out, count) := by
  cases complete with
  | data plain rest => exact if_pos plain
  | escaped rest => rfl
  | @negotiation cmd verb option rest =>
      have notIac : cmd ≠ iac := by
        rintro rfl
        cases verb
      simp [token, notIac, verb]
  | subnegotiation ends =>
      have notIac : sb ≠ iac := by decide
      have noVerb : isNegotiation sb = false := by decide
      simp [token, notIac, noVerb, ends]
  | command plain noVerb noSb rest =>
      simp [token, plain, noVerb, noSb]

theorem complete_of_token {input : List UInt8} {out : TelnetEvent} {count : Nat}
    (found : token input = some (out, count)) : Complete input out count := by
  unfold token at found
  split at found
  · cases found
  · rename_i byte rest
    split at found
    · rename_i plain
      cases found
      exact .data plain rest
    · rename_i escape
      obtain rfl : byte = iac := not_not.mp escape
      split at found
      · cases found
      · rename_i cmd body
        split at found
        · rename_i again
          cases found
          rw [again]
          exact .escaped body
        · rename_i plain
          split at found
          · rename_i verb
            split at found
            · cases found
            · cases found
              exact .negotiation verb _ _
          · rename_i noVerb
            split at found
            · rename_i subnegotiation
              split at found
              · rename_i ends
                cases found
                rw [subnegotiation]
                exact .subnegotiation ends
              · cases found
            · rename_i noSb
              cases found
              exact .command plain (by simpa using noVerb) noSb body

/-- The rounds of the loop as a resumable scanner. -/
def tokenizer : Tokenizer UInt8 TelnetEvent where
  token
  consumes := by
    intro input out count found
    cases complete_of_token found with
    | data => simp
    | escaped => simp
    | negotiation => simp
    | subnegotiation ends =>
        have bound := findSe_bound ends
        simp only [List.length_cons] at bound ⊢
        omega
    | command => simp
  stable := by
    intro input out count more found
    apply Complete.token_eq
    cases complete_of_token found with
    | data plain rest => exact .data plain (rest ++ more)
    | escaped rest => exact .escaped (rest ++ more)
    | negotiation verb option rest => exact .negotiation verb option (rest ++ more)
    | @subnegotiation option subPayload seIndex ends =>
        have bound := findSe_bound ends
        simp only [List.length_cons] at bound
        have whole : subPayload.take (seIndex - 1) =
            (subPayload ++ more).take (seIndex - 1) :=
          (List.take_append_of_le_length (by omega)).symm
        rw [whole]
        exact .subnegotiation (findSe_append more ends)
    | command plain noVerb noSb rest =>
        exact .command plain noVerb noSb (rest ++ more)

/-- The bytes of data among the events. -/
def cleaned (events : List TelnetEvent) : List UInt8 :=
  events.filterMap fun event =>
    match event with
    | .data byte => some byte
    | .call _ => none

/-- The calls among the events. -/
def made (events : List TelnetEvent) : List TelnetCall :=
  events.filterMap fun event =>
    match event with
    | .data _ => none
    | .call made => some made

end Telnet

/-- `_detect_vt100_sequences`: an escape sequence that VT100 knows, or a long
chunk of mostly printable characters. -/
def detectVt100Sequences (data : List UInt8) : Bool :=
  if data = [] ∨ data = [0x1B] then false
  else if [[0x1B, 0x5B], [0x1B, 0x28], [0x1B, 0x29], [0x1B, 0x23], [0x1B, 0x44],
      [0x1B, 0x4D], [0x1B, 0x63], [0x1B, 0x37], [0x1B, 0x38]].any
        fun sequence => decide (sequence <:+: data) then true
  else
    let asciiCount := data.countP fun byte => 32 ≤ byte && byte ≤ 126
    32 ≤ data.length && 7 * data.length ≤ 10 * asciiCount

namespace TelnetStream

/-- `_process_telnet_stream`. -/
def processTelnetStream (data : List UInt8) (stream : TelnetStream) :
    (List UInt8 × Bool) × TelnetStream :=
  let (events, rest) := Telnet.tokenizer.scan (stream.telnetBuffer ++ data)
  let cleanedData := Telnet.cleaned events
  ((cleanedData, detectVt100Sequences cleanedData),
    { telnetBuffer := rest
      calls := stream.calls ++ Telnet.made events })

/-- Process chunks in order and join what they yield. -/
def processChunks : List (List UInt8) → TelnetStream → List UInt8 × TelnetStream
  | [], stream => ([], stream)
  | chunk :: chunks, stream =>
      let ((cleanedData, _), next) := stream.processTelnetStream chunk
      let (later, last) := processChunks chunks next
      (cleanedData ++ later, last)

/-- Processing chunks is feeding them to the scanner. -/
theorem processChunks_eq_feed (chunks : List (List UInt8)) (stream : TelnetStream) :
    processChunks chunks stream =
      (Telnet.cleaned (Telnet.tokenizer.feed chunks stream.telnetBuffer).1,
        { telnetBuffer := (Telnet.tokenizer.feed chunks stream.telnetBuffer).2
          calls := stream.calls ++
            Telnet.made (Telnet.tokenizer.feed chunks stream.telnetBuffer).1 }) := by
  induction chunks generalizing stream with
  | nil => simp [processChunks, Tokenizer.feed, Telnet.cleaned, Telnet.made]
  | cons chunk chunks ih =>
      simp only [processChunks, processTelnetStream, Tokenizer.feed, ih,
        Telnet.cleaned, Telnet.made, List.filterMap_append, List.append_assoc]

/-- However a byte string is cut into chunks, the data, the calls and what is
kept at the end are those of the whole string. -/
theorem processChunks_eq_processTelnetStream (chunks : List (List UInt8))
    {stream : TelnetStream} (fresh : stream.telnetBuffer = []) :
    processChunks chunks stream =
      ((stream.processTelnetStream chunks.flatten).1.1,
        (stream.processTelnetStream chunks.flatten).2) := by
  have incomplete : Telnet.tokenizer.token stream.telnetBuffer = none := by
    rw [fresh]
    rfl
  rw [processChunks_eq_feed, Telnet.tokenizer.feed_eq_scan chunks incomplete]
  rfl

/-- A subnegotiation cut inside its terminator. -/
theorem processChunks_cutTerminator :
    processChunks [[0xC1, 0xFF], [0xFA, 0x28, 0x07, 0xFF], [0xF0, 0xC2]] ⟨[], []⟩ =
      ([0xC1, 0xC2], ⟨[], [.handleSubnegotiation 0x28 [0x07]]⟩) := by
  rw [processChunks_eq_processTelnetStream _ rfl]
  decide

end TelnetStream

end Pure3270

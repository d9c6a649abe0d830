import Pure3270.Protocol.TelnetStream

/-!
# Telnet encoding

A host writes data with IAC doubled, commands, and subnegotiations whose
payload has IAC doubled too.  The handler gives the data and the commands back.
It looks for the first IAC SE of a subnegotiation without regard to doubled
bytes, and passes a payload on as it stands on the wire.
-/

namespace Pure3270

open Foundations

/-- What a host sends. -/
inductive TelnetItem where
  | data (byte : UInt8)
  | command (cmd : UInt8)
  | negotiation (cmd option : UInt8)
  | subnegotiation (option : UInt8) (payload : List UInt8)
  deriving DecidableEq

namespace Telnet

/-- A byte with IAC doubled. -/
def escapeByte (byte : UInt8) : List UInt8 :=
  if byte = iac then [iac, iac] else [byte]

def escape (bytes : List UInt8) : List UInt8 :=
  bytes.flatMap escapeByte

/-- An escaped byte reads back as the byte. -/
theorem complete_escapeByte (byte : UInt8) (rest : List UInt8) :
    Complete (escapeByte byte ++ rest) (.data byte) (escapeByte byte).length := by
  unfold escapeByte
  by_cases escaped : byte = iac
  · rw [if_pos escaped, escaped]
    exact .escaped rest
  · rw [if_neg escaped]
    exact .data escaped rest

end Telnet

namespace TelnetItem

open Telnet

/-- Commands are no IAC, SB, SE or negotiation verb. -/
def WellFormed : TelnetItem → Prop
  | command cmd => cmd ≠ iac ∧ cmd ≠ sb ∧ cmd ≠ se ∧ isNegotiation cmd = false
  | negotiation cmd _ => isNegotiation cmd = true
  | _ => True

def encode : TelnetItem → List UInt8
  | data byte => escapeByte byte
  | command cmd => [iac, cmd]
  | negotiation cmd option => [iac, cmd, option]
  | subnegotiation option payload =>
      iac :: sb :: option :: (escape payload ++ [iac, se])

/-- What the handler is to make of an item. -/
def event : TelnetItem → TelnetEvent
  | data byte => .data byte
  | command cmd => .call (.handleTelnetCommand cmd)
  | negotiation cmd option => .call (.handleIacCommand cmd option)
  | subnegotiation option payload => .call (.handleSubnegotiation option payload)

/-- The payloads that get through: without IAC, and not mistaken for the
terminator together with the option. -/
def Transparent : TelnetItem → Prop
  | subnegotiation option payload =>
      iac ∉ payload ∧ ¬ (option = iac ∧ payload.head? = some se)
  | _ => True

instance (item : TelnetItem) : Decidable item.Transparent := by
  cases item <;> unfold Transparent <;> infer_instance

end TelnetItem

namespace Telnet

theorem iac_ne_se : iac ≠ se := by decide

theorem escape_of_not_mem {bytes : List UInt8} (clean : iac ∉ bytes) :
    escape bytes = bytes := by
  induction bytes with
  | nil => rfl
  | cons byte bytes ih =>
      have here : byte ≠ iac := fun same => clean (same ▸ List.mem_cons_self)
      have later := ih fun member => clean (List.mem_cons_of_mem _ member)
      unfold escape at later ⊢
      rw [List.flatMap_cons, later, escapeByte, if_neg here]
      rfl

theorem findSe_cons_of_not {first : UInt8} {bytes : List UInt8}
    (goesOn : ¬ (first = iac ∧ bytes.head? = some se)) :
    findSe (first :: bytes) = (findSe bytes).map (· + 1) := by
  rw [findSe_cons, if_neg]
  intro stands
  obtain ⟨same, rest, split⟩ := List.cons_prefix_cons.mp stands
  exact goesOn ⟨same.symm, split ▸ rfl⟩

/-- A payload without IAC ends at the terminator. -/
theorem findSe_clean {payload : List UInt8} (clean : iac ∉ payload)
    (rest : List UInt8) :
    findSe (payload ++ iac :: se :: rest) = some payload.length := by
  induction payload with
  | nil => rfl
  | cons byte payload ih =>
      have here : byte ≠ iac := fun same => clean (same ▸ List.mem_cons_self)
      have later := ih fun member => clean (List.mem_cons_of_mem _ member)
      rw [List.cons_append, findSe_cons_of_not fun both => here both.1, later]
      rfl

theorem findSe_transparent {option : UInt8} {payload : List UInt8}
    (clean : iac ∉ payload) (apart : ¬ (option = iac ∧ payload.head? = some se))
    (rest : List UInt8) :
    findSe (option :: (payload ++ iac :: se :: rest)) =
      some (payload.length + 1) := by
  have goesOn : ¬ (option = iac ∧
      (payload ++ iac :: se :: rest).head? = some se) := by
    cases payload with
    | nil => simp [iac_ne_se]
    | cons byte payload => simpa using apart
  rw [findSe_cons_of_not goesOn, findSe_clean clean]
  rfl

/-- A doubled payload is not cut at a place that leaves the bytes after the
first IAC as they were. -/
private theorem escape_not_cut (run : Nat) (bytes rest after : List UInt8) :
    List.replicate (run + 1) iac ++ (escape bytes ++ iac :: se :: rest) ≠
      bytes ++ iac :: se :: after := by
  induction bytes generalizing run with
  | nil =>
      intro same
      have second := congrArg (·[1]?) same
      cases run with
      | zero => simp [escape, iac_ne_se] at second
      | succ run => simp [List.replicate_succ, iac_ne_se] at second
  | cons byte bytes ih =>
      intro same
      rw [List.replicate_succ, List.cons_append, List.cons_append,
        List.cons.injEq] at same
      obtain ⟨rfl, same⟩ := same
      apply ih (run + 1)
      rw [← same]
      have doubled : escape (iac :: bytes) = iac :: iac :: escape bytes := rfl
      rw [doubled, List.replicate_succ', List.replicate_succ']
      simp

/-- With an IAC in it a payload never comes through as it was. -/
theorem escape_not_received {payload : List UInt8} (holds : iac ∈ payload)
    (rest after : List UInt8) :
    escape payload ++ iac :: se :: rest ≠ payload ++ iac :: se :: after := by
  intro same
  induction payload with
  | nil => cases holds
  | cons byte payload ih =>
      by_cases first : byte = iac
      · subst first
        have doubled : escape (iac :: payload) = iac :: iac :: escape payload := rfl
        rw [doubled, List.cons_append, List.cons_append, List.cons_append,
          List.cons.injEq] at same
        exact escape_not_cut 0 payload rest after same.2
      · have kept : escape (byte :: payload) = byte :: escape payload := by
          unfold escape
          rw [List.flatMap_cons, escapeByte, if_neg first]
          rfl
        rw [kept, List.cons_append, List.cons_append, List.cons.injEq] at same
        exact ih ((List.mem_cons.mp holds).resolve_left (Ne.symm first)) same.2

/-- Before a terminator the search ends at this byte or goes on behind it. -/
theorem findSe_cons_cases (byte : UInt8) (bytes rest : List UInt8) :
    (∃ tail, byte :: bytes = iac :: se :: tail ∧
        findSe (byte :: bytes ++ iac :: se :: rest) = some 0) ∨
      ¬ [iac, se] <+: byte :: bytes ∧
        findSe (byte :: bytes ++ iac :: se :: rest) =
          (findSe (bytes ++ iac :: se :: rest)).map (· + 1) := by
  by_cases ends : byte = iac ∧ (bytes ++ iac :: se :: rest).head? = some se
  · left
    obtain ⟨rfl, head⟩ := ends
    cases bytes with
    | nil => exact absurd head (by simp [iac_ne_se])
    | cons second bytes =>
        obtain rfl : second = se := by simpa using head
        exact ⟨bytes, rfl, by simp [findSe]⟩
  · right
    constructor
    · intro stands
      obtain ⟨rfl, next⟩ := List.cons_prefix_cons.mp stands
      cases bytes with
      | nil => cases List.prefix_nil.mp next
      | cons second bytes =>
          obtain ⟨rfl, _⟩ := List.cons_prefix_cons.mp next
          exact ends ⟨rfl, rfl⟩
    · rw [List.cons_append, findSe_cons_of_not ends]

theorem findSe_ne_none (bytes rest : List UInt8) :
    findSe (bytes ++ iac :: se :: rest) ≠ none := by
  induction bytes with
  | nil => simp [findSe]
  | cons byte bytes ih =>
      rcases findSe_cons_cases byte bytes rest with ⟨_, _, found⟩ | ⟨_, later⟩
      · rw [found]
        simp
      · rw [later]
        simpa using ih

end Telnet

namespace TelnetItem

open Telnet

theorem reads {item : TelnetItem} (formed : item.WellFormed)
    (transparent : item.Transparent) :
    tokenizer.Reads item.encode item.event := by
  intro rest
  apply Complete.token_eq
  cases item with
  | data byte => exact complete_escapeByte byte rest
  | command cmd => exact .command formed.1 formed.2.2.2 formed.2.1 rest
  | negotiation cmd option => exact .negotiation formed option rest
  | subnegotiation option payload =>
      have plain := escape_of_not_mem transparent.1
      have ends := findSe_transparent transparent.1 transparent.2 rest
      have complete := Complete.subnegotiation ends
      rw [Nat.add_sub_cancel, List.take_left] at complete
      have shape : iac :: sb :: option :: (payload ++ [iac, se]) ++ rest =
          iac :: sb :: option :: (payload ++ iac :: se :: rest) := by simp
      have width : (iac :: sb :: option :: (payload ++ [iac, se])).length =
          payload.length + 1 + 4 := by simp
      show Complete (iac :: sb :: option :: (escape payload ++ [iac, se]) ++ rest)
        (.call (.handleSubnegotiation option payload))
        (iac :: sb :: option :: (escape payload ++ [iac, se])).length
      rw [plain, shape, width]
      exact complete

theorem garbled {option : UInt8} {payload : List UInt8}
    (blocked : ¬ (subnegotiation option payload).Transparent)
    (rest : List UInt8) :
    ∃ received count, received ≠ payload ∧
      tokenizer.token ((subnegotiation option payload).encode ++ rest) =
        some (.call (.handleSubnegotiation option received), count) := by
  have shape : (subnegotiation option payload).encode ++ rest =
      iac :: sb :: option :: (escape payload ++ iac :: se :: rest) := by
    simp [encode]
  obtain ⟨seIndex, ends⟩ := Option.ne_none_iff_exists'.mp
    (findSe_ne_none (option :: escape payload) rest)
  rw [List.cons_append] at ends
  refine ⟨_, _, ?_, shape ▸ (Complete.subnegotiation ends).token_eq⟩
  intro same
  obtain ⟨after, terminator⟩ := findSe_split ends
  cases seIndex with
  | zero =>
      obtain rfl : payload = [] := by simpa using same.symm
      simp [escape, iac_ne_se] at terminator
  | succ length =>
      rw [Nat.add_sub_cancel] at same
      rw [List.drop_succ_cons] at terminator
      have whole := List.take_append_drop length (escape payload ++ iac :: se :: rest)
      rw [same, terminator] at whole
      by_cases holds : iac ∈ payload
      · exact escape_not_received holds rest after whole.symm
      · have mistaken : option = iac ∧ payload.head? = some se := by
          by_contra apart
          exact blocked ⟨holds, apart⟩
        rw [escape_of_not_mem holds] at ends
        obtain ⟨tail, rfl⟩ : ∃ tail, payload = se :: tail := by
          cases payload with
          | nil => cases mistaken.2
          | cons byte payload =>
              have byte_eq : byte = se := by simpa using mistaken.2
              exact ⟨payload, by rw [byte_eq]⟩
        rw [mistaken.1, List.cons_append, findSe, if_pos ⟨rfl, rfl⟩] at ends
        cases ends

end TelnetItem

namespace TelnetStream

open Telnet

/-- The bytes a host sends for a list of items. -/
def encodeTelnet (items : List TelnetItem) : List UInt8 :=
  items.flatMap TelnetItem.encode

theorem scan_encodeTelnet {items : List TelnetItem}
    (formed : ∀ item ∈ items, item.WellFormed)
    (transparent : ∀ item ∈ items, item.Transparent) :
    tokenizer.scan (encodeTelnet items) = (items.map TelnetItem.event, []) := by
  have scanned := tokenizer.scan_flatMap
    (fun item member => TelnetItem.reads (formed item member) (transparent item member))
    []
  rw [List.append_nil, tokenizer.scan_none tokenizer.token_nil, List.append_nil] at scanned
  exact scanned

/-- The calls show every payload that does not get through. -/
theorem transparent_of_made {items : List TelnetItem}
    (formed : ∀ item ∈ items, item.WellFormed)
    (same : made (tokenizer.scan (encodeTelnet items)).1 =
      made (items.map TelnetItem.event)) :
    ∀ item ∈ items, item.Transparent := by
  induction items with
  | nil => simp
  | cons item items ih =>
      have here := formed item List.mem_cons_self
      have encoded : encodeTelnet (item :: items) =
          item.encode ++ encodeTelnet items := rfl
      by_cases transparent : item.Transparent
      · have read := TelnetItem.reads here transparent (encodeTelnet items)
        rw [encoded, tokenizer.scan_some read, List.drop_left, List.map_cons] at same
        have later : made (tokenizer.scan (encodeTelnet items)).1 =
            made (items.map TelnetItem.event) := by
          unfold made at same ⊢
          rw [List.filterMap_cons, List.filterMap_cons] at same
          cases event : item.event with
          | data byte => simpa [event] using same
          | call made => simpa [event] using same
        have rest := ih (fun other member =>
          formed other (List.mem_cons_of_mem _ member)) later
        intro other member
        rcases List.mem_cons.mp member with rfl | member
        · exact transparent
        · exact rest other member
      · exfalso
        cases item with
        | subnegotiation option payload =>
            obtain ⟨received, count, different, read⟩ :=
              TelnetItem.garbled transparent (encodeTelnet items)
            rw [encoded, tokenizer.scan_some read, List.map_cons] at same
            have first : received = payload := by
              have heads := congrArg List.head? same
              simpa [made, TelnetItem.event] using heads
            exact different first
        | _ => exact transparent trivial

/-- What a host has encoded is decoded to its data, commands, options and
payloads exactly when every subnegotiation is transparent. -/
theorem processTelnetStream_encode_iff {items : List TelnetItem}
    (formed : ∀ item ∈ items, item.WellFormed) {stream : TelnetStream}
    (fresh : stream.telnetBuffer = []) :
    ((stream.processTelnetStream (encodeTelnet items)).1.1 =
        cleaned (items.map TelnetItem.event) ∧
      (stream.processTelnetStream (encodeTelnet items)).2.calls =
        stream.calls ++ made (items.map TelnetItem.event)) ↔
      ∀ item ∈ items, item.Transparent := by
  have processed : stream.processTelnetStream (encodeTelnet items) =
      ((cleaned (tokenizer.scan (encodeTelnet items)).1,
        detectVt100Sequences (cleaned (tokenizer.scan (encodeTelnet items)).1)),
        { telnetBuffer := (tokenizer.scan (encodeTelnet items)).2
          calls := stream.calls ++ made (tokenizer.scan (encodeTelnet items)).1 }) := by
    unfold processTelnetStream
    rw [fresh, List.nil_append]
  rw [processed]
  constructor
  · rintro ⟨_, calls⟩
    exact transparent_of_made formed (List.append_cancel_left calls)
  · intro transparent
    rw [scan_encodeTelnet formed transparent]
    exact ⟨rfl, rfl⟩

/-- Data with a doubled byte, an option and a terminal type. -/
theorem processTelnetStream_encode_small :
    ((⟨[], []⟩ : TelnetStream).processTelnetStream (encodeTelnet
        [.data 0xC1, .data 0xFF, .negotiation 0xFD 0x19,
          .subnegotiation 0x18 [0x01], .command 0xEF])).2.calls =
      [.handleIacCommand 0xFD 0x19, .handleSubnegotiation 0x18 [0x01],
        .handleTelnetCommand 0xEF] :=
  ((processTelnetStream_encode_iff
    (by simp [TelnetItem.WellFormed, isNegotiation, iac, sb, se]) rfl).mpr
      (by decide)).2

/-- The payload byte 0xFF arrives doubled. -/
theorem not_decoded_doubledPayload :
    ((⟨[], []⟩ : TelnetStream).processTelnetStream
        (encodeTelnet [.subnegotiation 0x28 [0x08, 0xFF]])).2.calls ≠
      [.handleSubnegotiation 0x28 [0x08, 0xFF]] := by
  decide

end TelnetStream

end Pure3270

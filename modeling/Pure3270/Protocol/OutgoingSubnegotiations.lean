import Mathlib.Tactic.Tauto
import Pure3270.Protocol.TelnetEncoding
import Pure3270.Protocol.Tn3270eSubnegotiation

/-!
# Outgoing subnegotiations

The senders put a payload between IAC SB and IAC SE as it is.  The reader stops
at the first IAC SE, so what it hands on is the payload exactly when those two
bytes do not stand together in the option and the payload.
-/

namespace Pure3270

open Foundations

namespace Telnet

/-- The terminator is found at the end unless IAC SE stands before it. -/
theorem findSe_terminated_iff (bytes rest : List UInt8) :
    findSe (bytes ++ iac :: se :: rest) = some bytes.length ↔
      ¬ [iac, se] <:+: bytes := by
  induction bytes with
  | nil => simp [findSe]
  | cons byte bytes ih =>
      rcases findSe_cons_cases byte bytes rest with
        ⟨tail, stands, found⟩ | ⟨apart, later⟩
      · rw [found, stands]
        simp [List.infix_cons_iff]
      · rw [later, List.infix_cons_iff, or_iff_right apart, ← ih]
        simp [Option.map_eq_some_iff]

theorem findSe_terminated_le {bytes rest : List UInt8} {index : Nat}
    (found : findSe (bytes ++ iac :: se :: rest) = some index) :
    index ≤ bytes.length := by
  by_contra beyond
  refine (findSe_iff.mp found).2 bytes.length (Nat.lt_of_not_le beyond) ?_
  rw [List.drop_left]
  exact ⟨rest, rfl⟩

/-- Before the first IAC SE there is none. -/
theorem not_infix_take_findSe {bytes : List UInt8} {index : Nat}
    (found : findSe bytes = some index) : ¬ [iac, se] <:+: bytes.take index := by
  obtain ⟨rest, ends⟩ := findSe_split found
  have bound := findSe_bound found
  have split : bytes.take index ++ iac :: se :: rest = bytes := by
    rw [← ends, List.take_append_drop]
  have width : (bytes.take index).length = index := by
    rw [List.length_take]
    omega
  rw [← findSe_terminated_iff _ rest, split, width]
  exact found

/-- `send_subnegotiation`. -/
def sendSubnegotiation (opt : UInt8) (data : List UInt8) : List UInt8 :=
  [iac, sb] ++ [opt] ++ data ++ [iac, se]

theorem sendSubnegotiation_append (opt : UInt8) (data rest : List UInt8) :
    sendSubnegotiation opt data ++ rest =
      iac :: sb :: opt :: (data ++ iac :: se :: rest) := by
  simp [sendSubnegotiation]

theorem sendSubnegotiation_reads {opt : UInt8} {data : List UInt8}
    (plain : ¬ [iac, se] <:+: opt :: data) :
    tokenizer.Reads (sendSubnegotiation opt data)
      (.call (.handleSubnegotiation opt data)) := by
  intro rest
  have ends : findSe (opt :: (data ++ iac :: se :: rest)) = some (data.length + 1) :=
    (findSe_terminated_iff (opt :: data) rest).mpr plain
  have complete := Complete.subnegotiation ends
  rw [Nat.add_sub_cancel, List.take_left] at complete
  have width : (sendSubnegotiation opt data).length = data.length + 1 + 4 := by
    simp [sendSubnegotiation]
  rw [sendSubnegotiation_append, width]
  exact complete.token_eq

theorem sendSubnegotiation_cut {opt : UInt8} {data : List UInt8}
    (cut : [iac, se] <:+: opt :: data) (rest : List UInt8) :
    ∃ received count, received ≠ data ∧
      tokenizer.token (sendSubnegotiation opt data ++ rest) =
        some (.call (.handleSubnegotiation opt received), count) := by
  obtain ⟨index, ends⟩ := Option.ne_none_iff_exists'.mp
    (findSe_ne_none (opt :: data) rest)
  have bound : index ≤ data.length + 1 := findSe_terminated_le ends
  have early : index ≠ data.length + 1 := by
    rintro rfl
    exact (findSe_terminated_iff (opt :: data) rest).mp ends cut
  have long : 2 ≤ data.length + 1 := cut.length_le
  rw [List.cons_append] at ends
  refine ⟨(data ++ iac :: se :: rest).take (index - 1), index + 4, ?_, ?_⟩
  · intro same
    have lengths := congrArg List.length same
    rw [List.length_take, List.length_append] at lengths
    omega
  · rw [sendSubnegotiation_append]
    exact (Complete.subnegotiation ends).token_eq

theorem infix_pair_iff (first second : UInt8) (bytes : List UInt8) :
    [iac, se] <:+: first :: second :: bytes ↔
      first = iac ∧ second = se ∨ [iac, se] <:+: second :: bytes := by
  rw [List.infix_cons_iff, List.cons_prefix_cons, List.cons_prefix_cons]
  simp only [List.nil_prefix, and_true, eq_comm]

theorem infix_cons_of_ne {byte : UInt8} (plain : byte ≠ iac) (bytes : List UInt8) :
    [iac, se] <:+: byte :: bytes ↔ [iac, se] <:+: bytes := by
  rw [List.infix_cons_iff, List.cons_prefix_cons]
  simp [plain.symm]

theorem not_infix_singleton (byte : UInt8) : ¬ [iac, se] <:+: [byte] := by
  intro stands
  have long : 2 ≤ 1 := stands.length_le
  omega

theorem not_infix_of_not_mem {bytes : List UInt8} (clean : iac ∉ bytes) :
    ¬ [iac, se] <:+: bytes :=
  fun stands => clean (stands.subset List.mem_cons_self)

theorem high_eq_iff (number : UInt16) (byte : UInt8) :
    UInt8.ofNat (number.toNat / 256) = byte ↔ number.toNat / 256 = byte.toNat := by
  have small : number.toNat / 256 < 256 := by
    have bound := number.toNat_lt
    omega
  rw [← UInt8.toNat_inj, UInt8.toNat_ofNat_of_lt' small]

theorem low_eq_iff (number : UInt16) (byte : UInt8) :
    UInt8.ofNat number.toNat = byte ↔ number.toNat % 256 = byte.toNat := by
  rw [← UInt8.toNat_inj, UInt8.toNat_ofNat']

theorem number_eq_iff (number : UInt16) :
    UInt8.ofNat (number.toNat / 256) = iac ∧ UInt8.ofNat number.toNat = se ↔
      number = 0xFFF0 := by
  rw [high_eq_iff, low_eq_iff, ← UInt16.toNat_inj]
  constructor
  · rintro ⟨high, low⟩
    have parts := Nat.div_add_mod number.toNat 256
    rw [high, low] at parts
    exact parts.symm
  · intro whole
    rw [whole]
    decide

end Telnet

open Telnet Tn3270e

/-- Text that `encode("ascii")` accepts, as its bytes. -/
structure AsciiText where
  bytes : List UInt8
  ascii : ∀ byte ∈ bytes, byte < 0x80

namespace AsciiText

def empty : AsciiText := ⟨[], fun _ member => absurd member List.not_mem_nil⟩

def ibm3287Bytes : List UInt8 :=
  [0x49, 0x42, 0x4D, 0x2D, 0x33, 0x32, 0x38, 0x37, 0x2D, 0x31]

theorem ibm3287Bytes_ascii : ∀ byte ∈ ibm3287Bytes, byte < 0x80 := by
  simp [ibm3287Bytes]

/-- `IBM-3287-1`. -/
def ibm3287 : AsciiText := ⟨ibm3287Bytes, ibm3287Bytes_ascii⟩

theorem iac_not_mem (text : AsciiText) : iac ∉ text.bytes := by
  intro member
  have small : iac.toNat < 128 := UInt8.lt_iff_toNat_lt.mp (text.ascii iac member)
  have value : iac.toNat = 255 := rfl
  omega

end AsciiText

/-- What the senders are called with. -/
inductive Outgoing where
  | naws (width height : UInt16)
  | usableArea (rows cols : UInt16)
  | luName (name : Option AsciiText)
  | terminalType (isPrinterSession hasPrinterBuffer : Bool) (name : AsciiText)
  | functionsIs (functions : Option (List UInt8))
  | subnegotiation (opt : UInt8) (data : List UInt8)

namespace Outgoing

/-- The terminal type that is sent; a printer is an IBM-3287-1. -/
def terminalTypeToSend (isPrinterSession hasPrinterBuffer : Bool)
    (name : AsciiText) : AsciiText :=
  let toSend :=
    if !isPrinterSession && hasPrinterBuffer then AsciiText.ibm3287 else name
  if AsciiText.ibm3287Bytes.take 8 <+: toSend.bytes then AsciiText.ibm3287 else toSend

/-- The functions that are echoed, or the usual ones. -/
def functionsData : Option (List UInt8) → List UInt8
  | some (byte :: rest) => byte :: rest
  | _ => Negotiator.defaultFunctionsData

def option : Outgoing → UInt8
  | naws _ _ => Telnet.naws
  | usableArea _ _ => tn3270e
  | luName _ => terminalLocation
  | terminalType _ _ _ => ttype
  | functionsIs _ => tn3270e
  | subnegotiation opt _ => opt

def payload : Outgoing → List UInt8
  | naws width height => u16Bytes width.toNat ++ u16Bytes height.toNat
  | usableArea rows cols =>
      [Tn3270e.usableArea, modeIs] ++ u16Bytes rows.toNat ++ u16Bytes cols.toNat ++
        u16Bytes rows.toNat ++ u16Bytes cols.toNat
  | luName name => [is] ++ (name.getD AsciiText.empty).bytes
  | terminalType isPrinterSession hasPrinterBuffer name =>
      [0x00] ++ (terminalTypeToSend isPrinterSession hasPrinterBuffer name).bytes
  | functionsIs functions => [Tn3270e.functions, is] ++ functionsData functions
  | subnegotiation _ data => data

/-- The bytes that reach the writer: `_send_naws_subnegotiation` assembles its
own, the others call `send_subnegotiation`. -/
def written : Outgoing → List UInt8
  | naws width height =>
      [iac, sb, Telnet.naws] ++ u16Bytes width.toNat ++ u16Bytes height.toNat ++ [iac, se]
  | message => sendSubnegotiation message.option message.payload

theorem written_eq (message : Outgoing) :
    message.written = sendSubnegotiation message.option message.payload := by
  cases message with
  | naws width height => simp [written, sendSubnegotiation, option, payload]
  | usableArea rows cols => rfl
  | luName name => rfl
  | terminalType isPrinterSession hasPrinterBuffer name => rfl
  | functionsIs functions => rfl
  | subnegotiation opt data => rfl

def call (message : Outgoing) : TelnetCall :=
  .handleSubnegotiation message.option message.payload

/-- Two numbers put one after the other bring IAC and SE together. -/
def Adjoins (first second : UInt16) : Prop :=
  first % 256 = 0xFF ∧ second / 256 = 0xF0

instance (first second : UInt16) : Decidable (Adjoins first second) :=
  inferInstanceAs (Decidable (_ ∧ _))

theorem adjoins_iff (first second : UInt16) :
    UInt8.ofNat first.toNat = iac ∧ UInt8.ofNat (second.toNat / 256) = se ↔
      Adjoins first second := by
  rw [high_eq_iff, low_eq_iff]
  unfold Adjoins
  rw [← UInt16.toNat_inj, ← UInt16.toNat_inj, UInt16.toNat_mod, UInt16.toNat_div]
  rfl

/-- No IAC SE in what is sent: no number is 0xFFF0, none that ends in 0xFF is
followed by one that starts with 0xF0. -/
def Survives : Outgoing → Prop
  | naws width height => width ≠ 0xFFF0 ∧ height ≠ 0xFFF0 ∧ ¬ Adjoins width height
  | usableArea rows cols =>
      rows ≠ 0xFFF0 ∧ cols ≠ 0xFFF0 ∧ ¬ Adjoins rows cols ∧ ¬ Adjoins cols rows
  | luName _ => True
  | terminalType _ _ _ => True
  | functionsIs none => True
  | functionsIs (some functions) => ¬ [iac, se] <:+: functions
  | subnegotiation opt data => ¬ [iac, se] <:+: opt :: data

theorem survives_iff (message : Outgoing) :
    message.Survives ↔ ¬ [iac, se] <:+: message.option :: message.payload := by
  cases message with
  | naws width height =>
      show _ ↔ ¬ [iac, se] <:+: [Telnet.naws, _, _, _, _]
      rw [infix_cons_of_ne (by decide)]
      simp only [infix_pair_iff, number_eq_iff, adjoins_iff, not_infix_singleton,
        Survives]
      tauto
  | usableArea rows cols =>
      show _ ↔ ¬ [iac, se] <:+:
        [tn3270e, Tn3270e.usableArea, modeIs, _, _, _, _, _, _, _, _]
      rw [infix_cons_of_ne (by decide), infix_cons_of_ne (by decide),
        infix_cons_of_ne (by decide)]
      simp only [infix_pair_iff, number_eq_iff, adjoins_iff, not_infix_singleton,
        Survives]
      tauto
  | luName name =>
      have plain : ¬ [iac, se] <:+: (name.getD AsciiText.empty).bytes :=
        not_infix_of_not_mem (AsciiText.iac_not_mem _)
      show True ↔ ¬ [iac, se] <:+: terminalLocation :: is :: _
      rw [infix_cons_of_ne (by decide), infix_cons_of_ne (by decide)]
      exact ⟨fun _ => plain, fun _ => trivial⟩
  | terminalType isPrinterSession hasPrinterBuffer name =>
      have plain : ¬ [iac, se] <:+:
          (terminalTypeToSend isPrinterSession hasPrinterBuffer name).bytes :=
        not_infix_of_not_mem (AsciiText.iac_not_mem _)
      show True ↔ ¬ [iac, se] <:+: ttype :: 0x00 :: _
      rw [infix_cons_of_ne (by decide), infix_cons_of_ne (by decide)]
      exact ⟨fun _ => plain, fun _ => trivial⟩
  | functionsIs functions =>
      show _ ↔ ¬ [iac, se] <:+:
        tn3270e :: Tn3270e.functions :: is :: functionsData functions
      rw [infix_cons_of_ne (by decide), infix_cons_of_ne (by decide),
        infix_cons_of_ne (by decide)]
      have usual : ¬ [iac, se] <:+: Negotiator.defaultFunctionsData := by decide
      cases functions with
      | none => exact ⟨fun _ => usual, fun _ => trivial⟩
      | some functions =>
          cases functions with
          | nil => exact ⟨fun _ => usual, fun _ => by simp [Survives]⟩
          | cons byte rest => exact Iff.rfl
  | subnegotiation opt data => exact Iff.rfl

theorem reads {message : Outgoing} (survives : message.Survives) :
    tokenizer.Reads message.written (.call message.call) := by
  rw [written_eq]
  exact sendSubnegotiation_reads (message.survives_iff.mp survives)

/-- What does not survive arrives with another payload. -/
theorem garbled {message : Outgoing} (blocked : ¬ message.Survives)
    (rest : List UInt8) :
    ∃ received count, received ≠ message.payload ∧
      tokenizer.token (message.written ++ rest) =
        some (.call (.handleSubnegotiation message.option received), count) := by
  rw [written_eq]
  exact sendSubnegotiation_cut (by_contra fun plain =>
    blocked (message.survives_iff.mpr plain)) rest

end Outgoing

namespace TelnetStream

/-- What a list of messages puts on the wire. -/
def writeAll (messages : List Outgoing) : List UInt8 :=
  messages.flatMap Outgoing.written

theorem scan_writeAll {messages : List Outgoing}
    (survive : ∀ message ∈ messages, message.Survives) :
    tokenizer.scan (writeAll messages) =
      (messages.map fun message => .call message.call, []) := by
  have scanned := tokenizer.scan_flatMap
    (fun message member => Outgoing.reads (survive message member)) []
  rw [List.append_nil, tokenizer.scan_none tokenizer.token_nil,
    List.append_nil] at scanned
  exact scanned

theorem survive_of_made {messages : List Outgoing}
    (same : made (tokenizer.scan (writeAll messages)).1 =
      messages.map Outgoing.call) :
    ∀ message ∈ messages, message.Survives := by
  induction messages with
  | nil => simp
  | cons message messages ih =>
      have split : writeAll (message :: messages) =
          message.written ++ writeAll messages := rfl
      by_cases survives : message.Survives
      · have read := Outgoing.reads survives (writeAll messages)
        rw [split, tokenizer.scan_some read, List.drop_left] at same
        have later := ih (List.tail_eq_of_cons_eq same)
        intro other member
        rcases List.mem_cons.mp member with rfl | member
        · exact survives
        · exact later other member
      · obtain ⟨received, count, different, read⟩ :=
          Outgoing.garbled survives (writeAll messages)
        rw [split, tokenizer.scan_some read] at same
        have first : TelnetCall.handleSubnegotiation message.option received =
            message.call := List.head_eq_of_cons_eq same
        cases first
        exact absurd rfl different

/-- All that a session sends is read back, message by message and however the
bytes are cut, exactly when every message survives. -/
theorem processChunks_writeAll_iff (messages : List Outgoing)
    (chunks : List (List UInt8)) (calls : List TelnetCall)
    (sent : chunks.flatten = writeAll messages) :
    processChunks chunks ⟨[], calls⟩ =
        ([], ⟨[], calls ++ messages.map Outgoing.call⟩) ↔
      ∀ message ∈ messages, message.Survives := by
  have processed := processChunks_eq_feed chunks ⟨[], calls⟩
  rw [tokenizer.feed_eq_scan chunks tokenizer.token_nil, List.nil_append, sent]
    at processed
  rw [processed]
  constructor
  · intro same
    injection same with _ streams
    injection streams with _ made
    exact survive_of_made (List.append_cancel_left made)
  · intro survive
    rw [scan_writeAll survive]
    simp [cleaned, made]

theorem plain_of_token {input : List UInt8} {opt : UInt8} {payload : List UInt8}
    {count : Nat} (found : tokenizer.token input =
      some (.call (.handleSubnegotiation opt payload), count)) :
    ¬ [iac, se] <:+: payload := by
  cases complete_of_token found with
  | @subnegotiation _ subPayload index ends =>
      intro stands
      have early := not_infix_take_findSe ends
      cases index with
      | zero => cases List.infix_nil.mp stands
      | succ index =>
          rw [List.take_succ_cons] at early
          exact early (stands.trans (List.suffix_cons _ _).isInfix)

theorem survives_of_received {input : List UInt8} {opt : UInt8}
    {payload functions : List UInt8} {count : Nat}
    (found : tokenizer.token input =
      some (.call (.handleSubnegotiation opt payload), count))
    (received : functions <:+: payload) :
    (Outgoing.functionsIs (some functions)).Survives :=
  fun stands => plain_of_token found (stands.trans received)

/-- A subnegotiation is handed on once, with its option and its payload and
without data, exactly when no IAC SE stands in it. -/
theorem processTelnetStream_written_iff (message : Outgoing)
    (calls : List TelnetCall) :
    ((processTelnetStream message.written ⟨[], calls⟩).1.1 = [] ∧
      (processTelnetStream message.written ⟨[], calls⟩).2.calls =
        calls ++ [.handleSubnegotiation message.option message.payload]) ↔
      message.Survives := by
  have alone : writeAll [message] = message.written := by simp [writeAll]
  constructor
  · rintro ⟨_, same⟩
    have made : made (tokenizer.scan (writeAll [message])).1 =
        [message].map Outgoing.call := by
      rw [alone]
      exact List.append_cancel_left same
    exact survive_of_made made message (List.mem_singleton.mpr rfl)
  · intro survives
    have scanned : tokenizer.scan (writeAll [message]) = ([.call message.call], []) :=
      scan_writeAll (by simpa using survives)
    rw [alone] at scanned
    unfold processTelnetStream
    rw [List.nil_append, scanned]
    exact ⟨rfl, rfl⟩

/-- A window of 255 columns and 61440 rows arrives without its rows. -/
theorem not_handedOn_window255 :
    ¬ ((processTelnetStream (Outgoing.naws 255 61440).written ⟨[], []⟩).1.1 = [] ∧
      (processTelnetStream (Outgoing.naws 255 61440).written ⟨[], []⟩).2.calls =
        [.handleSubnegotiation Telnet.naws [0x00, 0xFF, 0xF0, 0x00]]) := by
  decide

end TelnetStream

namespace Session

theorem sent_send {session : Session} (writer : session.negotiator.hasWriter)
    (message : NegotiatorMessage) :
    (session.send message).negotiator.sent = session.negotiator.sent ++ [message] := by
  unfold send
  rw [if_pos writer]
  rfl

theorem sendDetails_naws {session : Session} (writer : session.negotiator.hasWriter)
    {width height : UInt16} (cols : session.negotiator.screenCols = width.toNat)
    (rows : session.negotiator.screenRows = height.toNat) :
    (session.sendDetails Telnet.naws).negotiator.sent =
      session.negotiator.sent ++
        [.subnegotiation Telnet.naws (Outgoing.naws width height).payload] := by
  unfold sendDetails
  rw [if_pos rfl, sent_send writer, cols, rows]
  rfl

theorem sendDetails_luName {session : Session} (writer : session.negotiator.hasWriter)
    {name : Option AsciiText}
    (configured : session.negotiator.luName = name.map AsciiText.bytes) :
    (session.sendDetails terminalLocation).negotiator.sent =
      session.negotiator.sent ++
        [.subnegotiation terminalLocation (Outgoing.luName name).payload] := by
  unfold sendDetails
  rw [if_neg (by decide), if_pos rfl, sent_send writer, configured]
  cases name with
  | none => rfl
  | some name => rfl

theorem handleUsableArea_send {session : Session}
    (writer : session.negotiator.hasWriter) {rows cols : UInt16}
    (screenRows : session.negotiator.screenRows = rows.toNat)
    (screenCols : session.negotiator.screenCols = cols.toNat) (rest : List UInt8) :
    (session.handleUsableArea (modeSend :: rest)).negotiator.sent =
      session.negotiator.sent ++
        [.subnegotiation tn3270e (Outgoing.usableArea rows cols).payload] := by
  simp only [handleUsableArea, if_true]
  rw [sent_send writer, screenRows, screenCols]
  rfl

theorem sendFunctionsIs_echoes {session : Session}
    (writer : session.negotiator.hasWriter) :
    (Outgoing.functionsIs session.negotiator.functions).payload =
        [Tn3270e.functions, is] ++ session.negotiator.functionsData ∧
      session.sendFunctionsIs.negotiator.sent =
        session.negotiator.sent ++ [.functionsIs session.negotiator.functionsData] := by
  constructor
  · rfl
  · unfold sendFunctionsIs
    rw [if_pos writer]
    simp only [setNegotiatedFlag]
    split <;> rfl

end Session

end Pure3270

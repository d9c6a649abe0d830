import Pure3270.Protocol.ParserSafety
import Pure3270.Protocol.Vt100

/-!
# VT100 text in pieces

What a piece of text does is what its complete sequences do.  A sequence that is cut off
is forgotten, so that its rest is read as text at the start of the next piece.
-/

namespace Pure3270

open Foundations

namespace Vt100

/-- One sequence in front of a text, a constructor for each kind. -/
inductive Sequence : List UInt8 → Action → List UInt8 → Prop where
  | char {char : UInt8} (plain : char ≠ esc) (rest : List UInt8) :
      Sequence (char :: rest)
        (if char = shiftOutChar then .shiftOut
          else if char = shiftInChar then .shiftIn else .writeChar char) rest
  | escape {next : UInt8} (noCsi : next ≠ 0x5B) (short : takesOneMore next = false)
      (rest : List UInt8) : Sequence (esc :: next :: rest) (simpleEscape next) rest
  | longEscape {next : UInt8} (long : takesOneMore next = true) (operand : UInt8)
      (rest : List UInt8) :
      Sequence (esc :: next :: operand :: rest) (longEscape next operand) rest
  | csi {paramsStr : List UInt8} {params : List Nat} {command : UInt8}
      (inside : ∀ char ∈ paramsStr, isAlpha char = false) (final : isAlpha command = true)
      (read : csiParams paramsStr = some params) (rest : List UInt8) :
      Sequence (esc :: 0x5B :: (paramsStr ++ command :: rest)) (.csiCommand command params) rest
  | overflow {paramsStr : List UInt8} {command : UInt8}
      (inside : ∀ char ∈ paramsStr, isAlpha char = false) (final : isAlpha command = true)
      (unread : csiParams paramsStr = none) (skipped : UInt8) (rest : List UInt8) :
      Sequence (esc :: 0x5B :: (paramsStr ++ command :: skipped :: rest)) .ignored rest

theorem findIdx?_isAlpha {paramsStr : List UInt8} {command : UInt8}
    (inside : ∀ char ∈ paramsStr, isAlpha char = false) (final : isAlpha command = true)
    (rest : List UInt8) :
    (paramsStr ++ command :: rest).findIdx? isAlpha = some paramsStr.length := by
  induction paramsStr with
  | nil => rw [List.nil_append, List.findIdx?_cons, if_pos final]; rfl
  | cons char paramsStr ih =>
      rw [List.cons_append, List.findIdx?_cons, if_neg (by simp [inside]),
        ih fun other member => inside other (List.mem_cons_of_mem _ member)]
      rfl

/-- Where the final character stands. -/
theorem findIdx?_isAlpha_split {body : List UInt8} {final : Nat}
    (found : body.findIdx? isAlpha = some final) :
    ∃ paramsStr command rest, body = paramsStr ++ command :: rest ∧
      (∀ char ∈ paramsStr, isAlpha char = false) ∧ isAlpha command = true ∧
      paramsStr.length = final := by
  induction body generalizing final with
  | nil => cases found
  | cons char body ih =>
      rw [List.findIdx?_cons] at found
      split at found
      · rename_i ends
        cases found
        exact ⟨[], char, body, rfl, by simp, ends, rfl⟩
      · rename_i goesOn
        obtain ⟨later, foundLater, rfl⟩ := Option.map_eq_some_iff.mp found
        obtain ⟨paramsStr, command, rest, rfl, inside, ends, rfl⟩ := ih foundLater
        refine ⟨char :: paramsStr, command, rest, rfl, ?_, ends, rfl⟩
        exact List.forall_mem_cons.mpr ⟨Bool.eq_false_iff.mpr goesOn, inside⟩

theorem csiToken_read {paramsStr : List UInt8} {command : UInt8}
    (inside : ∀ char ∈ paramsStr, isAlpha char = false) (final : isAlpha command = true)
    (rest : List UInt8) :
    csiToken (paramsStr ++ command :: rest) =
      match csiParams paramsStr with
      | some params => some (.csiCommand command params, paramsStr.length + 1)
      | none => if rest = [] then none else some (.ignored, paramsStr.length + 2) := by
  unfold csiToken
  rw [findIdx?_isAlpha inside final rest]
  simp only
  rw [List.take_left]
  cases csiParams paramsStr with
  | some params => simp
  | none => cases rest <;> simp

theorem token_char {char : UInt8} (plain : char ≠ esc) (rest : List UInt8) :
    token (char :: rest) =
      some (if char = shiftOutChar then .shiftOut
        else if char = shiftInChar then .shiftIn else .writeChar char, 1) := by
  show (if _ then _ else _) = _
  rw [if_neg plain]
  split
  · rfl
  · split <;> rfl

theorem Sequence.token_eq {text rest : List UInt8} {action : Action}
    (sequence : Sequence text action rest) :
    ∃ count, token text = some (action, count) ∧ text.drop count = rest := by
  cases sequence with
  | char plain => exact ⟨1, token_char plain rest, rfl⟩
  | escape noCsi short =>
      exact ⟨2, by simp [token, escapeToken, noCsi, short], rfl⟩
  | @longEscape next long operand =>
      have noCsi : next ≠ 0x5B := by
        rintro rfl
        cases long
      exact ⟨3, by simp [token, escapeToken, noCsi, long], rfl⟩
  | @csi paramsStr params command inside final read =>
      refine ⟨paramsStr.length + 3, ?_, ?_⟩
      · simp [token, escapeToken, csiToken_read inside final, read]
      · show (paramsStr ++ command :: rest).drop (paramsStr.length + 1) = rest
        rw [← List.drop_drop, List.drop_left]
        rfl
  | @overflow paramsStr command inside final unread skipped =>
      refine ⟨paramsStr.length + 4, ?_, ?_⟩
      · simp [token, escapeToken, csiToken_read inside final, unread]
      · show (paramsStr ++ command :: skipped :: rest).drop (paramsStr.length + 2) = rest
        rw [← List.drop_drop, List.drop_left]
        rfl

/-- What `csiToken` has read. -/
theorem csiToken_split {body : List UInt8} {action : Action} {count : Nat}
    (found : csiToken body = some (action, count)) :
    Sequence (esc :: 0x5B :: body) action (body.drop count) ∧ 0 < count ∧
      count ≤ body.length := by
  cases ends : body.findIdx? isAlpha with
  | none =>
      unfold csiToken at found
      rw [ends] at found
      cases found
  | some final =>
      obtain ⟨paramsStr, command, rest, rfl, inside, alpha, rfl⟩ := findIdx?_isAlpha_split ends
      rw [csiToken_read inside alpha] at found
      have beyond : ∀ more : List UInt8,
          (paramsStr ++ command :: more).drop (paramsStr.length + 1) = more := fun more => by
        rw [← List.drop_drop, List.drop_left]
        rfl
      cases read : csiParams paramsStr with
      | some params =>
          rw [read] at found
          cases found
          rw [beyond]
          exact ⟨.csi inside alpha read rest, by simp, by simp⟩
      | none =>
          rw [read] at found
          cases rest with
          | nil => cases found
          | cons skipped rest =>
              cases found
              have left : (paramsStr ++ command :: skipped :: rest).drop
                  (paramsStr.length + 2) = rest := by
                rw [← List.drop_drop, List.drop_left]
                rfl
              rw [left]
              exact ⟨.overflow inside alpha read skipped rest, by simp, by simp⟩

theorem escapeToken_cons (next : UInt8) (body : List UInt8) :
    escapeToken (next :: body) =
      if next = 0x5B then (csiToken body).map fun token => (token.1, token.2 + 1)
      else if takesOneMore next then
        match body with
        | [] => none
        | operand :: _ => some (longEscape next operand, 2)
      else some (simpleEscape next, 1) := rfl

theorem sequence_of_token {text : List UInt8} {action : Action} {count : Nat}
    (found : token text = some (action, count)) :
    Sequence text action (text.drop count) ∧ 0 < count ∧ count ≤ text.length := by
  cases text with
  | nil => cases found
  | cons char rest =>
      by_cases plain : char ≠ esc
      · cases (token_char plain rest).symm.trans found
        exact ⟨.char plain rest, by simp⟩
      · obtain rfl : char = esc := not_not.mp plain
        obtain ⟨⟨action', taken⟩, read, same⟩ := Option.map_eq_some_iff.mp
          (show (escapeToken rest).map _ = some (action, count) from found)
        cases same
        cases rest with
        | nil => cases read
        | cons next body =>
            rw [escapeToken_cons] at read
            by_cases csi : next = 0x5B
            · rw [if_pos csi] at read
              obtain ⟨⟨inner, width⟩, csiRead, same⟩ := Option.map_eq_some_iff.mp read
              cases same
              obtain ⟨sequence, _, bound⟩ := csiToken_split csiRead
              rw [csi]
              exact ⟨sequence, by simp, by simp only [List.length_cons]; omega⟩
            · rw [if_neg csi] at read
              cases long : takesOneMore next with
              | true =>
                  rw [if_pos long] at read
                  cases body with
                  | nil => cases read
                  | cons operand body =>
                      cases read
                      exact ⟨.longEscape long operand body, by simp, by simp⟩
              | false =>
                  rw [if_neg (by rw [long]; decide)] at read
                  cases read
                  exact ⟨.escape csi long body, by simp, by simp⟩

/-- The pieces of a sequence that is cut off. -/
inductive Cut : List UInt8 → Prop where
  | escape : Cut [esc]
  | longEscape {next : UInt8} (long : takesOneMore next = true) : Cut [esc, next]
  | csi {paramsStr : List UInt8} (inside : ∀ char ∈ paramsStr, isAlpha char = false) :
      Cut (esc :: 0x5B :: paramsStr)
  | overflow {paramsStr : List UInt8} {command : UInt8}
      (inside : ∀ char ∈ paramsStr, isAlpha char = false) (final : isAlpha command = true)
      (unread : csiParams paramsStr = none) : Cut (esc :: 0x5B :: (paramsStr ++ [command]))

theorem cut_of_token {text : List UInt8} (waits : token text = none) (nonempty : text ≠ []) :
    Cut text := by
  cases text with
  | nil => exact absurd rfl nonempty
  | cons char rest =>
      by_cases plain : char ≠ esc
      · cases (token_char plain rest).symm.trans waits
      · obtain rfl : char = esc := not_not.mp plain
        have unread := Option.map_eq_none_iff.mp
          (show (escapeToken rest).map _ = none from waits)
        cases rest with
        | nil => exact .escape
        | cons next body =>
            rw [escapeToken_cons] at unread
            by_cases csi : next = 0x5B
            · rw [if_pos csi] at unread
              have csiUnread := Option.map_eq_none_iff.mp unread
              rw [csi]
              cases ends : body.findIdx? isAlpha with
              | none => exact .csi (List.findIdx?_eq_none_iff.mp ends)
              | some final =>
                  obtain ⟨paramsStr, command, rest, rfl, inside, alpha, rfl⟩ :=
                    findIdx?_isAlpha_split ends
                  rw [csiToken_read inside alpha] at csiUnread
                  cases read : csiParams paramsStr with
                  | some params =>
                      rw [read] at csiUnread
                      cases csiUnread
                  | none =>
                      rw [read] at csiUnread
                      cases rest with
                      | nil => exact .overflow inside alpha read
                      | cons skipped rest => cases csiUnread
            · rw [if_neg csi] at unread
              cases long : takesOneMore next with
              | true =>
                  rw [if_pos long] at unread
                  cases body with
                  | nil => exact .longEscape long
                  | cons operand body => cases unread
              | false =>
                  rw [if_neg (by rw [long]; decide)] at unread
                  cases unread

theorem Sequence.append {text rest : List UInt8} {action : Action}
    (sequence : Sequence text action rest) (more : List UInt8) :
    Sequence (text ++ more) action (rest ++ more) := by
  cases sequence with
  | char plain rest => exact .char plain (rest ++ more)
  | escape noCsi short rest => exact .escape noCsi short (rest ++ more)
  | longEscape long operand rest => exact .longEscape long operand (rest ++ more)
  | @csi paramsStr params command inside final read rest =>
      have whole := Sequence.csi inside final read (rest ++ more)
      simpa using whole
  | @overflow paramsStr command inside final unread skipped rest =>
      have whole := Sequence.overflow inside final unread skipped (rest ++ more)
      simpa using whole

/-- What follows a sequence does not change how it is read. -/
theorem token_append {text : List UInt8} {action : Action} {count : Nat}
    (more : List UInt8) (found : token text = some (action, count)) :
    token (text ++ more) = some (action, count) := by
  obtain ⟨sequence, positive, bound⟩ := sequence_of_token found
  obtain ⟨whole, foundWhole, left⟩ := (sequence.append more).token_eq
  have lengths := congrArg List.length left
  have wholeBound := (sequence_of_token foundWhole).2.2
  simp only [List.length_drop, List.length_append] at lengths wholeBound
  obtain rfl : whole = count := by omega
  exact foundWhole

/-- The loop of `_parse_text` as a resumable scanner. -/
def scanner : Tokenizer UInt8 Action where
  token := token
  consumes := fun found => (sequence_of_token found).2
  stable := token_append

/-- A text of complete sequences. -/
inductive Complete : List UInt8 → Prop where
  | nil : Complete []
  | cons {text rest : List UInt8} {action : Action} (sequence : Sequence text action rest)
      (later : Complete rest) : Complete text

/-- The loop leaves nothing exactly of such a text. -/
theorem complete_iff (text : List UInt8) : Complete text ↔ (scanner.scan text).2 = [] := by
  constructor
  · intro complete
    induction complete with
    | nil => rw [scanner.scan_none scanner.token_nil]
    | cons sequence _ ih =>
        obtain ⟨count, found, left⟩ := sequence.token_eq
        rw [scanner.scan_some found, left]
        exact ih
  · intro ended
    induction length : text.length using Nat.strongRecOn generalizing text with
    | ind size ih =>
        subst length
        cases found : scanner.token text with
        | none =>
            rw [scanner.scan_none found] at ended
            rw [show text = [] from ended]
            exact .nil
        | some pair =>
            obtain ⟨sequence, positive, bound⟩ := sequence_of_token found
            have shorter : (text.drop pair.2).length < text.length := by
              rw [List.length_drop]
              omega
            rw [scanner.scan_some found] at ended
            exact .cons sequence (ih _ shorter _ ended rfl)

theorem decodeAsciiIgnore_append (first second : List UInt8) :
    decodeAsciiIgnore (first ++ second) = decodeAsciiIgnore first ++ decodeAsciiIgnore second :=
  List.filter_append ..

end Vt100

namespace Vt100Parser

open Vt100

/-- `parse`. -/
def parse (data : List UInt8) (parser : Vt100Parser) : Vt100Parser :=
  (scanner.scan (decodeAsciiIgnore data)).1.foldl perform parser

/-- In one text the second piece is read behind what the first one leaves over. -/
theorem parse_append (first second : List UInt8) (parser : Vt100Parser) :
    parser.parse (first ++ second) =
      (scanner.scan ((scanner.scan (decodeAsciiIgnore first)).2 ++ decodeAsciiIgnore second)).1.foldl
        perform (parser.parse first) := by
  unfold parse
  rw [decodeAsciiIgnore_append, scanner.scan_append, List.foldl_append]

/-- A shift that the parser is not in. -/
def otherShift (isAltCharset : Bool) : UInt8 :=
  if isAltCharset then shiftInChar else shiftOutChar

theorem decodeAsciiIgnore_otherShift (isAltCharset : Bool) :
    decodeAsciiIgnore [otherShift isAltCharset] = [otherShift isAltCharset] := by
  cases isAltCharset <;> rfl

theorem parse_otherShift (parser : Vt100Parser) :
    (parser.parse [otherShift parser.isAltCharset]).isAltCharset = !parser.isAltCharset := by
  unfold parse
  rw [decodeAsciiIgnore_otherShift]
  cases parser.isAltCharset with
  | true => rfl
  | false => rfl

/-- A sequence that is cut off swallows the shift. -/
theorem scan_otherShift {text : List UInt8} (cut : Cut text) (isAltCharset : Bool)
    (parser : Vt100Parser) :
    ((scanner.scan (text ++ [otherShift isAltCharset])).1.foldl perform parser).isAltCharset =
      parser.isAltCharset := by
  have single : ∀ {whole : List UInt8} {action : Action}, Sequence whole action [] →
      scanner.scan whole = ([action], []) := by
    intro whole action sequence
    obtain ⟨count, found, left⟩ := sequence.token_eq
    rw [scanner.scan_some found, left, scanner.scan_none scanner.token_nil]
  have noAlpha : isAlpha (otherShift isAltCharset) = false := by
    cases isAltCharset <;> rfl
  cases cut with
  | escape =>
      have read : scanner.scan [esc, otherShift isAltCharset] = ([.ignored], []) := by
        cases isAltCharset with
        | true => exact single (.escape (by decide) (by decide) [])
        | false => exact single (.escape (by decide) (by decide) [])
      rw [List.singleton_append, read]
      rfl
  | @longEscape next long =>
      have read := single (.longEscape long (otherShift isAltCharset) [])
      rw [List.cons_append, List.singleton_append, read]
      show (parser.perform (Vt100.longEscape next _)).isAltCharset = _
      unfold Vt100.longEscape
      split
      · rfl
      · split <;> rfl
  | @csi paramsStr inside =>
      have waits : scanner.token
          (esc :: 0x5B :: paramsStr ++ [otherShift isAltCharset]) = none := by
        have unread : csiToken (paramsStr ++ [otherShift isAltCharset]) = none := by
          have goesOn : (paramsStr ++ [otherShift isAltCharset]).findIdx? isAlpha = none := by
            refine List.findIdx?_eq_none_iff.mpr fun char member => ?_
            rcases List.mem_append.mp member with among | last
            · exact inside char among
            · rw [List.mem_singleton.mp last]
              exact noAlpha
          unfold csiToken
          rw [goesOn]
        show ((csiToken (paramsStr ++ [otherShift isAltCharset])).map _).map _ = none
        rw [unread]
        rfl
      rw [scanner.scan_none waits]
      rfl
  | @overflow paramsStr command inside final unread =>
      have read := single (.overflow inside final unread (otherShift isAltCharset) [])
      rw [List.cons_append, List.cons_append, List.append_assoc, List.singleton_append, read]
      rfl

/-- Whatever the state of the parser, no second piece tells a cut exactly when the first
piece ends outside of a sequence. -/
theorem parse_pieces_iff (first : List UInt8) (parser : Vt100Parser) :
    (∀ second, (parser.parse first).parse second = parser.parse (first ++ second)) ↔
      Complete (decodeAsciiIgnore first) := by
  rw [complete_iff]
  constructor
  · intro same
    by_contra cut
    have read := parse_otherShift (parser.parse first)
    rw [same, parse_append, decodeAsciiIgnore_otherShift,
      scan_otherShift (cut_of_token (scanner.token_rest _) cut)] at read
    exact absurd read (by simp)
  · intro complete second
    rw [parse_append, complete, List.nil_append]
    rfl

def smallVt100 : Vt100Parser :=
  init (DataStreamParser.smallParser 0 0).screen

/-- ESC [ 2 J cut in the middle. -/
theorem not_parse_pieces :
    ((smallVt100.parse [0x1B, 0x5B, 0x32]).parse [0x4A]).currentCol ≠
      (smallVt100.parse ([0x1B, 0x5B, 0x32] ++ [0x4A])).currentCol := by
  decide +kernel

end Vt100Parser

end Pure3270

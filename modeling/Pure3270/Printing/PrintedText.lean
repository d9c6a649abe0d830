import Pure3270.Foundations.Runs
import Pure3270.Printing.PrinterBuffer

/-!
# What of the payloads is printed

Every text byte is to be printed once, however the text is cut into payloads.
The bytes kept from a payload are printed again in front of the next one, so this
needs payloads after which nothing but line feeds is kept.
-/

namespace Pure3270.Printing

open Foundations

abbrev lineFeed : UInt8 := 0x0A

/-- The decoded text of a payload. -/
def payloadText (payload : List UInt8) : List Char :=
  decode (payload.filter (· ≠ lineFeed))

/-- Text bytes and line feeds, of which nothing is suppressed. -/
def TextPayload (payload : List UInt8) : Prop :=
  (∀ byte ∈ payload, byte = lineFeed ∨ 0x40 ≤ byte ∧ byte ≤ 0xFE) ∧
    ∀ line ∈ payload.splitOn lineFeed, shouldSuppressChunk line = false

instance (payload : List UInt8) : Decidable (TextPayload payload) :=
  inferInstanceAs (Decidable (_ ∧ _))

/-- A byte whose character is printable ASCII. -/
def isPlain (byte : UInt8) : Bool :=
  32 ≤ (Ebcdic.cp037Char byte).toNat && (Ebcdic.cp037Char byte).toNat ≤ 126

/-- The line that is being written after some more bytes. -/
def lineAfter (line : List Char) : List UInt8 → List Char
  | [] => line
  | byte :: rest =>
      lineAfter (if byte = lineFeed then [] else line ++ [Ebcdic.cp037Char byte]) rest

/-- The lines that go to the buffer when the bytes are written; a line feed also adds
an empty one. -/
def writtenLines (line : List Char) : List UInt8 → List (List Char)
  | [] => [line]
  | byte :: rest =>
      if byte = lineFeed then line :: [] :: writtenLines [] rest
      else writtenLines (line ++ [Ebcdic.cp037Char byte]) rest

namespace PrinterBuffer

/-- The text of the buffer with its line structure removed. -/
def text (printer : PrinterBuffer) : List Char :=
  printer.getRenderedOutput.1.filter (· ≠ '\n')

/-- No line with text falls out of the buffer. -/
def HasRoom (data : List UInt8) (printer : PrinterBuffer) : Prop :=
  let lines := printer.buffer ++ writtenLines printer.currentLine data
  printer.maxLines = 0 ∨ ∀ line ∈ lines.take (lines.length - printer.maxLines), line = []

instance (data : List UInt8) (printer : PrinterBuffer) : Decidable (printer.HasRoom data) :=
  inferInstanceAs (Decidable (_ ∨ _))

/-- The payload meets none of the heuristics that repeat, change or drop text:
nothing but line feeds is kept from before, all characters are ASCII, a marker stands
in a payload without line feeds and record header, and without a marker no line has a
record header, the last line shows every marker to be forced, and there is room. -/
def PrintsOnce (payload : List UInt8) (printer : PrinterBuffer) : Prop :=
  let whole := printer.pendingBytes ++ payload
  (∀ byte ∈ printer.pendingBytes, byte = lineFeed) ∧
    (∀ byte ∈ payload, byte = lineFeed ∨ isPlain byte = true) ∧
    if hasMarker whole then
      printer.pendingBytes = [] ∧ lineFeed ∉ payload ∧
        behindHeader ((decode payload).dropWhile isSpace) = none
    else
      (∀ line ∈ payload.splitOn lineFeed, behindHeader (decode line) = none) ∧
        (∀ marker ∈ markerCandidates, marker <:+: whole →
          markerCore marker <:+: lineAfter printer.currentLine whole) ∧
        printer.HasRoom whole

end PrinterBuffer

theorem isPlain_lineFeed : isPlain lineFeed = false := by decide +kernel

theorem keeps_plain {byte : UInt8} (plain : isPlain byte = true) :
    keeps (Ebcdic.cp037Char byte) = true :=
  Bool.or_eq_true_iff.mpr (.inr plain)

theorem sanitize_plain {byte : UInt8} (plain : isPlain byte = true) :
    sanitize (Ebcdic.cp037Char byte) = Ebcdic.cp037Char byte :=
  if_pos (keeps_plain plain)

theorem cleanChar_plain {byte : UInt8} (plain : isPlain byte = true) :
    Ebcdic.cleanChar (Ebcdic.cp037Char byte) = Ebcdic.cp037Char byte := by
  obtain ⟨above, below⟩ := Bool.and_eq_true_iff.mp plain
  refine if_pos (.inl ⟨of_decide_eq_true above, fun delete => ?_⟩)
  rw [delete] at below
  exact absurd below (by decide)

theorem decode_plain {bytes : List UInt8} (plain : ∀ byte ∈ bytes, isPlain byte = true) :
    decode bytes = bytes.map Ebcdic.cp037Char :=
  List.map_congr_left fun byte member => cleanChar_plain (plain byte member)

theorem sanitize_decode {bytes : List UInt8} (plain : ∀ byte ∈ bytes, isPlain byte = true) :
    (decode bytes).map sanitize = decode bytes := by
  rw [decode_plain plain, List.map_map]
  exact List.map_congr_left fun byte member => sanitize_plain (plain byte member)

theorem not_lineFeed_of_plain {bytes : List UInt8}
    (plain : ∀ byte ∈ bytes, isPlain byte = true) : lineFeed ∉ bytes := by
  intro member
  have feed := plain lineFeed member
  rw [isPlain_lineFeed] at feed
  cases feed

/-- A run of plain bytes that is not suppressed and has no record header. -/
structure CleanLine (line : List UInt8) : Prop where
  shown : shouldSuppressChunk line = false
  headless : behindHeader (decode line) = none

theorem chunkText_clean {chunk : List UInt8} (plain : ∀ byte ∈ chunk, isPlain byte = true)
    (clean : CleanLine chunk) : chunkText chunk = decode chunk := by
  have mapped : chunk.map Ebcdic.cp037Char = decode chunk := (decode_plain plain).symm
  have kept : (decode chunk).filter keeps = decode chunk := by
    rw [decode_plain plain, List.filter_eq_self]
    intro ch member
    obtain ⟨byte, inside, rfl⟩ := List.mem_map.mp member
    exact keeps_plain (plain byte inside)
  have whole : stripHeader (decode chunk) = decode chunk := by
    unfold stripHeader
    rw [clean.headless]
    rfl
  unfold chunkText
  simp only [mapped, sanitize_decode plain, kept, ite_self, whole]
  split
  · rfl
  · rename_i nothing
    rw [not_not.mp nothing, ite_self]

namespace PrinterBuffer

/-- The text of the lines and of the line that is being written. -/
def held (printer : PrinterBuffer) : List Char :=
  printer.buffer.flatten ++ printer.currentLine

theorem text_eq (printer : PrinterBuffer) : printer.text = printer.held.filter (· ≠ '\n') := by
  have joined : ∀ lines : List (List Char), (['\n'].intercalate lines).filter (· ≠ '\n') =
      lines.flatten.filter (· ≠ '\n') := by
    intro lines
    induction lines with
    | nil => rfl
    | cons line lines ih =>
        cases lines with
        | nil => rw [List.intercalate_singleton, List.flatten_singleton]
        | cons next lines =>
            rw [List.intercalate_cons_cons, List.filter_append, List.filter_append, ih,
              List.flatten_cons, List.filter_append]
            simp
  unfold text getRenderedOutput held
  rw [List.filter_append, List.filter_append, joined]

theorem held_appendText (text : List Char) (printer : PrinterBuffer) :
    (printer.appendText text).held = printer.held ++ text :=
  (List.append_assoc _ _ _).symm

theorem held_flushCurrentLine (printer : PrinterBuffer) :
    printer.flushCurrentLine.held = printer.held := by
  unfold held flushCurrentLine
  simp

/-- Lines without text may fall out of the buffer. -/
theorem held_trimLines {printer : PrinterBuffer}
    (empty : printer.maxLines = 0 ∨
      ∀ line ∈ printer.buffer.take (printer.buffer.length - printer.maxLines), line = []) :
    printer.trimLines.held = printer.held := by
  unfold trimLines
  split
  · rename_i full
    have lost := empty.resolve_left full.2
    have split := List.take_append_drop (printer.buffer.length - printer.maxLines) printer.buffer
    have nothing : (printer.buffer.take (printer.buffer.length - printer.maxLines)).flatten = [] :=
      List.flatten_eq_nil_iff.mpr lost
    unfold held
    conv_rhs => rw [← split, List.flatten_append, nothing]
    rfl
  · rfl

theorem appendChunk_clean {chunk : List UInt8} (plain : ∀ byte ∈ chunk, isPlain byte = true)
    (clean : CleanLine chunk) (printer : PrinterBuffer) :
    printer.appendChunk chunk = printer.appendText (decode chunk) := by
  unfold appendChunk
  rw [clean.shown, chunkText_clean plain clean]
  split
  · rename_i nothing
    have empty : chunk = [] := nothing.resolve_right Bool.false_ne_true
    subst empty
    unfold appendText decode Ebcdic.decode
    simp
  · rfl

/-- What the loop does to a buffer with plain lines of data. -/
structure Scanned (chunk data : List UInt8) (before after : PrinterBuffer) : Prop where
  held : after.held = before.held ++ decode chunk ++ payloadText data
  line : after.currentLine = lineAfter (before.currentLine ++ decode chunk) data
  lines : after.buffer ++ [after.currentLine] =
    before.buffer ++ writtenLines (before.currentLine ++ decode chunk) data
  maxLines : after.maxLines = before.maxLines
  pending : after.pendingBytes = before.pendingBytes

theorem scan_clean {chunk data : List UInt8} (printer : PrinterBuffer)
    (chunkPlain : ∀ byte ∈ chunk, isPlain byte = true)
    (plain : ∀ byte ∈ data, byte = lineFeed ∨ isPlain byte = true)
    (clean : ∀ line ∈ (chunk ++ data).splitOn lineFeed, CleanLine line) :
    Scanned chunk data printer (printer.scan data chunk) := by
  induction data generalizing chunk printer with
  | nil =>
      have whole := not_lineFeed_of_plain chunkPlain
      rw [List.append_nil, List.splitOn_eq_singleton whole] at clean
      rw [scan, appendChunk_clean chunkPlain (clean chunk List.mem_cons_self)]
      exact {
        held := (held_appendText _ _).trans (List.append_nil _).symm
        line := rfl
        lines := rfl
        maxLines := rfl
        pending := rfl }
  | cons byte rest ih =>
      have later : ∀ other ∈ rest, other = lineFeed ∨ isPlain other = true :=
        fun other member => plain other (List.mem_cons_of_mem _ member)
      by_cases feed : byte = lineFeed
      · subst feed
        have whole := not_lineFeed_of_plain chunkPlain
        rw [List.splitOn_append_cons_self, List.splitOn_eq_singleton whole] at clean
        have appended := appendChunk_clean chunkPlain (clean chunk List.mem_cons_self) printer
        have after := @ih [] ((printer.appendText (decode chunk)).flushCurrentLine.newLine)
          nofun later fun line member => clean line (List.mem_cons_of_mem _ member)
        rw [scan.eq_def]
        dsimp only
        rw [if_pos rfl, appended]
        refine ⟨?_, ?_, ?_, after.maxLines, after.pending⟩
        · rw [after.held]
          show ((printer.appendText (decode chunk)).flushCurrentLine.flushCurrentLine.held ++
            decode []) ++ payloadText rest = _
          rw [held_flushCurrentLine, held_flushCurrentLine, held_appendText]
          exact congrArg (· ++ payloadText rest) (List.append_nil _)
        · rw [after.line, lineAfter, if_pos rfl]
          rfl
        · rw [after.lines, writtenLines, if_pos rfl]
          show (printer.buffer ++ [printer.currentLine ++ decode chunk]) ++ [[]] ++
            writtenLines [] rest = _
          simp
      · have byteFits := (plain byte List.mem_cons_self).resolve_left feed
        have ordinary : byte ≠ 0x0D ∧ byte ≠ 0x0C ∧ byte ≠ 0x09 ∧ byte ≠ 0x01 := by
          refine ⟨?_, ?_, ?_, ?_⟩ <;> rintro rfl <;> revert byteFits <;> decide +kernel
        have longer : ∀ other ∈ chunk ++ [byte], isPlain other = true := by
          intro other member
          rcases List.mem_append.mp member with inside | last
          · exact chunkPlain other inside
          · rw [List.mem_singleton.mp last]
            exact byteFits
        have after := ih printer longer later (by rwa [List.append_assoc])
        have decoded : decode (chunk ++ [byte]) = decode chunk ++ [Ebcdic.cp037Char byte] := by
          rw [decode_plain longer, decode_plain chunkPlain, List.map_append]
          rfl
        rw [scan.eq_def]
        dsimp only
        rw [if_neg feed, if_neg ordinary.1, if_neg ordinary.2.1, if_neg ordinary.2.2.1,
          if_neg ordinary.2.2.2]
        refine ⟨?_, ?_, ?_, after.maxLines, after.pending⟩
        · have text : payloadText (byte :: rest) = Ebcdic.cp037Char byte :: payloadText rest := by
            unfold payloadText
            rw [List.filter_cons_of_pos (by simpa using feed)]
            exact congrArg (· :: _) (cleanChar_plain byteFits)
          rw [after.held, decoded, text]
          simp
        · rw [after.line, decoded, lineAfter, if_neg feed, List.append_assoc]
        · rw [after.lines, decoded, writtenLines, if_neg feed, List.append_assoc]

theorem writeLines_clean {data : List UInt8} {printer : PrinterBuffer} (positioned : Bool)
    (fresh : printer.pendingBytes = [])
    (plain : ∀ byte ∈ data, byte = lineFeed ∨ isPlain byte = true)
    (clean : ∀ line ∈ data.splitOn lineFeed, CleanLine line)
    (markers : ∀ marker ∈ markerCandidates, marker <:+: data →
      markerCore marker <:+: lineAfter printer.currentLine data)
    (room : printer.HasRoom data) :
    (printer.writeLines data positioned).held = printer.held ++ payloadText data := by
  have scanned := @scan_clean [] data printer nofun plain clean
  have unforced : (printer.scan data []).forceMarker ((printer.scan data []).pendingBytes ++ data) =
      printer.scan data [] := by
    have none : markerCandidates.find? (fun marker =>
        marker <:+: (printer.scan data []).pendingBytes ++ data ∧ markerCore marker ≠ [] ∧
          ¬ markerCore marker <:+: (printer.scan data []).currentLine) = none := by
      rw [List.find?_eq_none]
      intro marker listed
      rw [decide_eq_true_eq, scanned.pending, fresh, List.nil_append]
      rintro ⟨present, _, missing⟩
      refine missing ?_
      rw [scanned.line]
      exact (List.append_nil printer.currentLine).symm ▸ markers marker listed present
    unfold forceMarker
    dsimp only
    rw [none]
  have emptied : ∀ kept : PrinterBuffer, kept.buffer = (printer.scan data []).buffer →
      kept.currentLine = (printer.scan data []).currentLine →
      kept.maxLines = (printer.scan data []).maxLines →
      kept.flushCurrentLine.trimLines.held = printer.held ++ payloadText data := by
    intro kept buffer line maxLines
    rw [held_trimLines, held_flushCurrentLine]
    · unfold held
      rw [buffer, line]
      refine scanned.held.trans (congrArg (· ++ payloadText data) ?_)
      exact List.append_nil _
    · show kept.maxLines = 0 ∨ ∀ line ∈ (kept.buffer ++ [kept.currentLine]).take
        ((kept.buffer ++ [kept.currentLine]).length - kept.maxLines), line = []
      rw [maxLines, scanned.maxLines, buffer, line, scanned.lines]
      have whole : printer.currentLine ++ decode [] = printer.currentLine := List.append_nil _
      rw [whole]
      exact room
  unfold writeLines
  dsimp only
  rw [unforced]
  split
  · exact emptied _ rfl rfl rfl
  · exact emptied _ rfl rfl rfl

theorem payloadText_append (front back : List UInt8) :
    payloadText (front ++ back) = payloadText front ++ payloadText back := by
  unfold payloadText decode Ebcdic.decode
  rw [List.filter_append, List.map_append]

theorem payloadText_feeds {feeds : List UInt8} (only : ∀ byte ∈ feeds, byte = lineFeed) :
    payloadText feeds = [] := by
  have none : feeds.filter (· ≠ lineFeed) = [] := by
    rw [List.filter_eq_nil_iff]
    exact fun byte member => by simp [only byte member]
  unfold payloadText
  rw [none]
  rfl

/-- Line feeds in front only add empty lines. -/
theorem splitOn_feeds {feeds payload line : List UInt8}
    (only : ∀ byte ∈ feeds, byte = lineFeed)
    (member : line ∈ (feeds ++ payload).splitOn lineFeed) :
    line = [] ∨ line ∈ payload.splitOn lineFeed := by
  induction feeds with
  | nil => exact .inr member
  | cons byte feeds ih =>
      rw [only byte List.mem_cons_self, List.cons_append,
        ← List.nil_append (lineFeed :: (feeds ++ payload)), List.splitOn_append_cons_self,
        List.splitOn_nil] at member
      rcases List.mem_cons.mp member with here | later
      · exact .inl here
      · exact ih (fun other inside => only other (List.mem_cons_of_mem _ inside)) later

theorem cleanLine_nil : CleanLine [] := ⟨by decide +kernel, rfl⟩

theorem parseScsData_held {payload : List UInt8} {printer : PrinterBuffer}
    (text : TextPayload payload) (once : printer.PrintsOnce payload) :
    (printer.parseScsData payload).held = printer.held ++ payloadText payload := by
  obtain ⟨feeds, plain, rest⟩ := once
  unfold parseScsData handleScsData writeScsData
  simp only [Option.some_or, Option.isSome_some, if_true, List.nil_append]
  by_cases marked : hasMarker (printer.pendingBytes ++ payload) = true
  · rw [if_pos marked] at rest
    obtain ⟨fresh, oneLine, headless⟩ := rest
    have allPlain : ∀ byte ∈ payload, isPlain byte = true := by
      intro byte member
      refine (plain byte member).resolve_left fun feed => ?_
      rw [feed] at member
      exact oneLine member
    have whole : payload.filter (· ≠ lineFeed) = payload := by
      rw [List.filter_eq_self]
      intro byte member
      exact decide_eq_true fun feed => oneLine (feed ▸ member)
    rw [if_pos marked, held_appendText, fresh, List.nil_append, sanitize_decode allPlain]
    unfold stripSpacedHeader payloadText
    rw [headless, whole]
    rfl
  · rw [if_neg marked] at rest
    obtain ⟨headless, markers, room⟩ := rest
    rw [if_neg marked, if_neg marked, writeLines_clean, payloadText_append,
      payloadText_feeds feeds, List.nil_append]
    · rfl
    · rfl
    · intro byte member
      rcases List.mem_append.mp member with kept | inside
      · exact .inl (feeds byte kept)
      · exact plain byte inside
    · intro line member
      rcases splitOn_feeds feeds member with empty | inside
      · rw [empty]
        exact cleanLine_nil
      · exact ⟨text.2 line inside, headless line inside⟩
    · exact markers
    · exact room

theorem payloadText_plain {payload : List UInt8}
    (plain : ∀ byte ∈ payload, byte = lineFeed ∨ isPlain byte = true) :
    (payloadText payload).filter (· ≠ '\n') = payloadText payload := by
  have textPlain : ∀ byte ∈ payload.filter (· ≠ lineFeed), isPlain byte = true := by
    intro byte member
    obtain ⟨inside, notFeed⟩ := List.mem_filter.mp member
    exact (plain byte inside).resolve_left (of_decide_eq_true notFeed)
  unfold payloadText
  rw [decode_plain textPlain, List.filter_eq_self]
  intro ch member
  obtain ⟨byte, inside, rfl⟩ := List.mem_map.mp member
  have above := (Bool.and_eq_true_iff.mp (textPlain byte inside)).1
  refine decide_eq_true fun feed => ?_
  rw [feed] at above
  exact absurd above (by decide)

/-- A payload that meets none of the heuristics adds its text. -/
theorem parseScsData_text {payload : List UInt8} {printer : PrinterBuffer}
    (text : TextPayload payload) (once : printer.PrintsOnce payload) :
    (printer.parseScsData payload).text = printer.text ++ payloadText payload := by
  rw [text_eq, text_eq, parseScsData_held text once, List.filter_append,
    payloadText_plain once.2.1]

theorem run_text {payloads : List (List UInt8)} {printer : PrinterBuffer}
    (texts : ∀ payload ∈ payloads, TextPayload payload)
    (once : Along parseScsData PrintsOnce payloads printer) :
    (run parseScsData payloads printer).text = printer.text ++ payloads.flatMap payloadText := by
  induction payloads generalizing printer with
  | nil => exact (List.append_nil _).symm
  | cons payload payloads ih =>
      rw [run, ih (fun other member => texts other (List.mem_cons_of_mem _ member)) once.2,
        parseScsData_text (texts payload List.mem_cons_self) once.1, List.flatMap_cons,
        List.append_assoc]

/-- After every payload of a run whose payloads meet none of the heuristics the
buffer holds the text of the payloads so far, each byte once. -/
theorem printed_text (maxLines : Nat) (autoReset : Bool) {payloads front : List (List UInt8)}
    (texts : ∀ payload ∈ payloads, TextPayload payload)
    (once : Along parseScsData PrintsOnce payloads (init maxLines autoReset))
    (part : front <+: payloads) :
    (run parseScsData front (init maxLines autoReset)).text = front.flatMap payloadText := by
  obtain ⟨back, rfl⟩ := part
  refine run_text (fun payload member => texts payload (List.mem_append_left _ member)) ?_
  exact (along_append.mp once).1

theorem printed_text_userMarker :
    (run parseScsData [[0xE4, 0xE2, 0xC5, 0xD9], [0xC8, 0x0A, 0xC9]] (init 10000 false)).text =
      ['U', 'S', 'E', 'R', 'H', 'I'] := by
  have texts : ∀ payload ∈ [[0xE4, 0xE2, 0xC5, 0xD9], [0xC8, 0x0A, 0xC9]],
      TextPayload payload := by decide +kernel
  have marker : (init 10000 false).PrintsOnce [0xE4, 0xE2, 0xC5, 0xD9] :=
    ⟨nofun, by decide +kernel, by decide +kernel⟩
  have lines : ((init 10000 false).parseScsData [0xE4, 0xE2, 0xC5, 0xD9]).PrintsOnce
      [0xC8, 0x0A, 0xC9] :=
    ⟨by decide +kernel, by decide +kernel, by decide +kernel⟩
  exact (printed_text 10000 false texts ⟨marker, lines, trivial⟩
    (List.prefix_refl _)).trans (by decide +kernel)

/-- The second payload prints the first one again. -/
theorem not_printed_twice :
    ¬ ∀ (maxLines : Nat) (autoReset : Bool) (payloads : List (List UInt8)),
      (∀ payload ∈ payloads, TextPayload payload) →
        (run parseScsData payloads (init maxLines autoReset)).text =
          payloads.flatMap payloadText := by
  intro claimed
  have text := claimed 10000 false [[0xC1], [0xC2]] (by decide +kernel)
  revert text
  decide +kernel

end PrinterBuffer

end Pure3270.Printing

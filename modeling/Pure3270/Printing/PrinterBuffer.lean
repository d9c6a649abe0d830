import Mathlib.Data.List.Infix
import Pure3270.Emulation.ScreenText

/-!
# The printer buffer

SCS data becomes lines of text.  Runs of bytes between the control codes are
decoded, filtered and appended; some of them are taken for screen data and
suppressed.  The last bytes of a write are kept and put before the next one, and
a few byte sequences that the writer knows as markers are appended at once.
-/

namespace Pure3270.Printing

/-- One character that passes a test, or any number of them. -/
inductive PatternPiece where
  | one (test : Char → Bool)
  | many (test : Char → Bool)

/-- What may be left of a text behind some characters that pass the test. -/
def leftovers (test : Char → Bool) : List Char → List (List Char)
  | [] => [[]]
  | ch :: text => (ch :: text) :: if test ch then leftovers test text else []

/-- Whether the pattern matches at the start of the text. -/
def matchesHere : List PatternPiece → List Char → Bool
  | [], _ => true
  | .one _ :: _, [] => false
  | .one test :: rest, ch :: text => test ch && matchesHere rest text
  | .many test :: rest, text => (leftovers test text).any (matchesHere rest)

/-- `re.search`. -/
def search (pattern : List PatternPiece) (text : List Char) : Bool :=
  text.tails.any (matchesHere pattern)

/-- A word in capitals, matched in either case. -/
def word (letters : String) : List PatternPiece :=
  letters.toList.map fun letter => .one fun ch => ch.toUpper = letter

def isHexDigit (ch : Char) : Bool := ch.isDigit || ch.toUpper ∈ ['A', 'B', 'C', 'D', 'E', 'F']

/-- At least one character that passes the test. -/
def oneOrMore (test : Char → Bool) : List PatternPiece := [.one test, .many test]

/-- The texts that traces of a screen contain. -/
def tracePatterns : List (List PatternPiece) :=
  [word "TRACE",
    word "DEBUG",
    word "SCREEN" ++ oneOrMore isSpace ++ word "DUMP",
    word "BUFFER" ++ oneOrMore isSpace ++ word "DUMP",
    word "FIELD" ++ oneOrMore isSpace ++ word "COMMAND",
    word "ORDER" ++ oneOrMore isSpace ++ word "STREAM",
    word "POSITION" ++ oneOrMore isSpace ++ oneOrMore Char.isDigit,
    word "ROW" ++ [.many isSpace] ++ oneOrMore Char.isDigit,
    word "COL" ++ [.many isSpace] ++ oneOrMore Char.isDigit,
    word "ATTRIBUTE" ++ oneOrMore isSpace ++ word "0X" ++ oneOrMore isHexDigit]

def decode (data : List UInt8) : List Char := Ebcdic.decode Ebcdic.cp037Char data

/-- What the output keeps: printable ASCII, line feeds, form feeds and tabs. -/
def keeps (ch : Char) : Bool :=
  ch ∈ ['\n', '\x0c', '\t'] || (32 ≤ ch.toNat && ch.toNat ≤ 126)

def sanitize (ch : Char) : Char := if keeps ch then ch else ' '

/-- What comes behind a record header, digits and an H before a letter. -/
def behindHeader (text : List Char) : Option (List Char) :=
  match text.dropWhile Char.isDigit with
  | 'H' :: rest =>
      if text.head?.any Char.isDigit && rest.head?.any Char.isAlpha then some rest else none
  | _ => none

/-- The text without a record header. -/
def stripHeader (text : List Char) : List Char := (behindHeader text).getD text

/-- The text without blanks and a record header at its start. -/
def stripSpacedHeader (text : List Char) : List Char :=
  (behindHeader (text.dropWhile isSpace)).getD text

/-- `data.hex()`. -/
def hex (data : List UInt8) : List Char :=
  data.flatMap fun byte => [Nat.digitChar (byte.toNat / 16), Nat.digitChar (byte.toNat % 16)]

/-- The hexadecimal fragments of a marker, which need not start at a byte. -/
def markerFragments : List (List Char) :=
  ["e4e2c5d97a40".toList, "e4e2".toList, "c5d9".toList, "7a40".toList]

def hasMarker (data : List UInt8) : Bool :=
  markerFragments.any fun fragment => fragment <:+: hex data

/-- The whole markers that are looked for at the end of a write. -/
def markerCandidates : List (List UInt8) :=
  [[0xE4, 0xE2, 0xC5, 0xD9, 0x7A, 0x40, 0xD7, 0xD2, 0xC1, 0xF6, 0xF0, 0xF3, 0xF9],
    [0xE4, 0xE2, 0xC5, 0xD9, 0x7A, 0x40],
    [0xD7, 0xD2, 0xC1, 0xF6, 0xF0, 0xF3, 0xF9]]

def markerText (marker : List UInt8) : List Char := (decode marker).map sanitize

/-- What of a marker is looked for in the current line. -/
def markerCore (marker : List UInt8) : List Char :=
  ((markerText marker).dropWhile isSpace).rdropWhile isSpace

/-- The orders that only a screen has. -/
def tn3270Orders : List UInt8 := [0x01, 0x05, 0x11, 0x12, 0x13, 0x3C, 0x29]

/-- `_should_suppress_chunk`. -/
def shouldSuppressChunk (chunk : List UInt8) : Bool :=
  tn3270Orders.any (· ∈ chunk) ||
    tracePatterns.any (fun pattern => search pattern (decode chunk)) ||
    (let printable := chunk.countP fun byte => 0x40 ≤ byte && byte ≤ 0xFE
    let control := chunk.countP fun byte => byte < 0x40 || byte ∈ tn3270Orders
    0 < printable && printable < 2 * control)

/-- The text that is appended for a run of bytes. -/
def chunkText (chunk : List UInt8) : List Char :=
  let decoded := decode chunk
  let mapped := chunk.map Ebcdic.cp037Char
  let relaxed := decoded.map sanitize
  let sanitized := mapped.map sanitize
  let marked :=
    if hasMarker chunk then
      if "USER".toList <:+: sanitized ∨ "PKA".toList <:+: sanitized ∨
        sanitized.any Char.isAlpha then sanitized
      else relaxed
    else mapped.filter keeps
  let safe :=
    if ("USER".toList <:+: decoded ∨ "PKA".toList <:+: decoded ∨ hasMarker chunk) ∧
      ¬ "USER".toList <:+: marked then relaxed
    else marked
  if safe ≠ [] then stripHeader safe
  else if hasMarker chunk then stripHeader relaxed
  else []

structure PrinterBuffer where
  maxLines : Nat
  autoReset : Bool
  buffer : List (List Char)
  currentLine : List Char
  cursorRow : Nat
  cursorCol : Nat
  pendingBytes : List UInt8
  lastParserPos : Option Nat
  status : UInt8

namespace PrinterBuffer

def init (maxLines : Nat) (autoReset : Bool) : PrinterBuffer where
  maxLines
  autoReset
  buffer := []
  currentLine := []
  cursorRow := 0
  cursorCol := 0
  pendingBytes := []
  lastParserPos := none
  status := 0x00

def reset (printer : PrinterBuffer) : PrinterBuffer :=
  { printer with buffer := [], currentLine := [], cursorRow := 0, cursorCol := 0 }

def updateStatus (statusCode : UInt8) (printer : PrinterBuffer) : PrinterBuffer :=
  { printer with status := statusCode }

def flushCurrentLine (printer : PrinterBuffer) : PrinterBuffer :=
  { printer with buffer := printer.buffer ++ [printer.currentLine], currentLine := [] }

def newLine (printer : PrinterBuffer) : PrinterBuffer :=
  { printer.flushCurrentLine with cursorRow := printer.cursorRow + 1, cursorCol := 0 }

def appendText (text : List Char) (printer : PrinterBuffer) : PrinterBuffer :=
  { printer with
    currentLine := printer.currentLine ++ text
    cursorCol := printer.cursorCol + text.length }

/-- A run of bytes without control codes. -/
def appendChunk (chunk : List UInt8) (printer : PrinterBuffer) : PrinterBuffer :=
  if chunk = [] ∨ shouldSuppressChunk chunk then printer
  else printer.appendText (chunkText chunk)

def formFeed (printer : PrinterBuffer) : PrinterBuffer :=
  let flushed := printer.flushCurrentLine
  { flushed with
    buffer := flushed.buffer ++ [['\x0c']]
    cursorRow := printer.cursorRow + 1
    cursorCol := 0 }

/-- The loop over the bytes.  The run of bytes since the last control code is
carried along. -/
def scan : List UInt8 → List UInt8 → PrinterBuffer → PrinterBuffer
  | [], chunk, printer => printer.appendChunk chunk
  | byte :: rest, chunk, printer =>
      if byte = 0x0A then scan rest [] (printer.appendChunk chunk).flushCurrentLine.newLine
      else if byte = 0x0D then scan rest [] { printer.appendChunk chunk with cursorCol := 0 }
      else if byte = 0x0C then scan rest [] (printer.appendChunk chunk).formFeed
      else if byte = 0x09 then scan rest [] ((printer.appendChunk chunk).appendText ['\t'])
      else if byte = 0x01 then
        match rest with
        | [] => printer.appendChunk chunk
        | status :: rest => scan rest [] ((printer.appendChunk chunk).updateStatus status)
      else scan rest (chunk ++ [byte]) printer

/-- The first marker in the data that the current line does not show is appended. -/
def forceMarker (data : List UInt8) (printer : PrinterBuffer) : PrinterBuffer :=
  let missing := markerCandidates.find? fun marker =>
    marker <:+: data ∧ markerCore marker ≠ [] ∧ ¬ markerCore marker <:+: printer.currentLine
  match missing with
  | some marker => printer.appendText (markerText marker)
  | none => printer

/-- The last `max_lines` lines; a slice from minus zero is the whole list. -/
def trimLines (printer : PrinterBuffer) : PrinterBuffer :=
  if printer.maxLines < printer.buffer.length ∧ printer.maxLines ≠ 0 then
    { printer with buffer := printer.buffer.drop (printer.buffer.length - printer.maxLines) }
  else printer

/-- What is done with data without markers. -/
def writeLines (data : List UInt8) (positioned : Bool) (printer : PrinterBuffer) :
    PrinterBuffer :=
  let scanned := printer.scan data []
  let forced := scanned.forceMarker (scanned.pendingBytes ++ data)
  let kept :=
    if positioned ∧ data ≠ [] then
      { forced with pendingBytes := data.drop (data.length - 32) }
    else forced
  kept.flushCurrentLine.trimLines

/-- `write_scs_data`.  The bytes that the last write kept are put before the data
where a parser position is known. -/
def writeScsData (data : List UInt8) (parserPos : Option Nat) (printer : PrinterBuffer) :
    PrinterBuffer :=
  let positioned := (parserPos.or printer.lastParserPos).isSome
  let whole := if positioned then printer.pendingBytes ++ data else data
  let consumed := if positioned then { printer with pendingBytes := [] } else printer
  let combined := consumed.pendingBytes ++ whole
  if hasMarker whole then
    consumed.appendText (stripSpacedHeader ((decode whole).map sanitize))
  else if hasMarker combined then
    { consumed.appendText (stripHeader ((decode combined).map sanitize)) with
      pendingBytes := [] }
  else consumed.writeLines whole positioned

/-- `_handle_scs_data`. -/
def handleScsData (data : List UInt8) (parserPos : Nat) (printer : PrinterBuffer) :
    PrinterBuffer :=
  { printer with lastParserPos := some parserPos }.writeScsData data (some parserPos)

/-- `parse` with the data type of SCS data: the position is that of a new parser. -/
def parseScsData (data : List UInt8) (printer : PrinterBuffer) : PrinterBuffer :=
  printer.handleScsData data 0

/-- `get_rendered_output`. -/
def getRenderedOutput (printer : PrinterBuffer) : List Char × PrinterBuffer :=
  (['\n'].intercalate printer.buffer ++ printer.currentLine,
    if printer.autoReset then printer.reset else printer)

end PrinterBuffer

end Pure3270.Printing

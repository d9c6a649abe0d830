import Pure3270.Protocol.DataStreamParser
import Pure3270.Protocol.FunctionActivity
import Pure3270.Protocol.ParserSafety

/-!
# The BIND-IMAGE structured field

The parser looks up the function that reads a BIND-IMAGE by its name, on itself.  The
function exists, but as a local one of another function, so that the lookup finds
nothing and the negotiator is handed an empty BIND-IMAGE.
-/

namespace Pure3270

open Foundations

/-- `BindImage`, without the session parameters. -/
structure BindImage where
  rows : Option Nat := none
  cols : Option Nat := none
  queryReplyIds : List Nat := []
  model : Option String := none
  flags : Option Nat := none
  deriving DecidableEq, Repr

namespace DataStreamParser

/-- A subfield: one byte of length, which counts itself, an identifier and data. -/
structure BindSubfield where
  id : UInt8
  data : List UInt8
  fits : data.length + 2 < 256

namespace BindSubfield

abbrev presentationSpaceControl : UInt8 := 0x01

abbrev queryReplyIds : UInt8 := 0x02

def encode (subfield : BindSubfield) : List UInt8 :=
  .ofNat (subfield.data.length + 2) :: subfield.id :: subfield.data

/-- The rows and columns of a PSC subfield. -/
def dimensions (subfield : BindSubfield) : Option (Nat × Nat) :=
  match subfield.data with
  | rowsHigh :: rowsLow :: colsHigh :: colsLow :: _ =>
      if subfield.id = presentationSpaceControl then
        some (u16 rowsHigh rowsLow, u16 colsHigh colsLow)
      else none
  | _ => none

/-- Numbers of two bytes. -/
def pairs : List UInt8 → List Nat
  | high :: low :: rest => u16 high low :: pairs rest
  | _ => []

def replyIds (subfield : BindSubfield) : List Nat :=
  if subfield.id = queryReplyIds then pairs subfield.data else []

end BindSubfield

/-- What is sent to the parser: the subfields alone, or behind the header of a
structured field, whose length counts the type. -/
inductive BindFraming where
  | bare
  | structuredField

def BindFraming.frame (framing : BindFraming) (subfields : List BindSubfield) :
    List UInt8 :=
  let payload := subfields.flatMap BindSubfield.encode
  match framing with
  | bare => payload
  | structuredField =>
      0x3C :: .ofNat ((payload.length + 1) / 256) :: .ofNat (payload.length + 1) :: 0x03 ::
        payload

/-- `getattr(self, "_parse_bind_image_sf", None)`.  The function of that name is
indented under `_handle_scs_data`; neither the class nor the module has it, so that
the module has nothing to attach to the class either. -/
def parseBindImageSf : Option (List UInt8 → BindImage) := none

/-- The BIND-IMAGE of `_handle_bind_sf`. -/
def bindImageOf (sfData : List UInt8) : BindImage :=
  match parseBindImageSf with
  | some parseFn => parseFn sfData
  | none => {}

/-- What `parse` gives to `_handle_bind_sf`: the payload of a structured field, or
everything. -/
def bindPayload (data : List UInt8) : List UInt8 :=
  match data with
  | 0x3C :: high :: low :: _ :: rest => rest.take (u16 high low - 1)
  | _ => data

/-- The arguments of the calls of `handle_bind_image` in `parse(data, BIND_IMAGE)`. -/
def handledBindImages (data : List UInt8) (parser : DataStreamParser) : List BindImage :=
  if parser.hasNegotiator then [bindImageOf (bindPayload data)] else []

theorem handleBindSf_eq (parser : DataStreamParser) :
    handleBindSf parser = .ok () { parser with
      calls := parser.calls ++ if parser.hasNegotiator then [.handleBindImage] else [] } := by
  unfold handleBindSf
  rw [run_get_bind]
  by_cases negotiator : parser.hasNegotiator = true
  · rw [if_pos negotiator, if_pos negotiator]
    rfl
  · rw [if_neg negotiator, if_neg negotiator, List.append_nil]
    rfl

theorem parse_bindImage (data : List UInt8) (parser : DataStreamParser) :
    ∃ after, parse data 0x03 parser = .ok .ignored after ∧
      after.calls =
        parser.calls ++ (handledBindImages data parser).map fun _ => .handleBindImage := by
  refine ⟨_, run_bind_ok (handleBindSf_eq _), ?_⟩
  unfold handledBindImages
  cases negotiator : parser.hasNegotiator with
  | true => simp only [if_true, List.map_cons, List.map_nil]
  | false => simp only [Bool.false_eq_true, if_false, List.map_nil]

theorem handledBindImages_empty {data : List UInt8} {parser : DataStreamParser}
    {image : BindImage} (handled : image ∈ handledBindImages data parser) : image = {} := by
  unfold handledBindImages at handled
  split at handled
  · exact List.mem_singleton.mp handled
  · exact absurd handled List.not_mem_nil

/-- The sizes of the subfields reach the negotiator in one call: those of the first PSC,
and all identifiers of query replies. -/
structure Reaches (subfields : List BindSubfield) (handled : List BindImage) : Prop where
  once : handled.length = 1
  dimensions : ∀ image ∈ handled, ∀ rows cols,
    subfields.findSome? BindSubfield.dimensions = some (rows, cols) →
      image.rows = some rows ∧ image.cols = some cols
  queryReplyIds : ∀ image ∈ handled,
    image.queryReplyIds = subfields.flatMap BindSubfield.replyIds

/-- A parse calls the negotiator with what `handledBindImages` lists, and the sizes of a
PSC subfield are never in it. -/
theorem bindImage_never_reaches (framing : BindFraming) (subfields : List BindSubfield)
    (sized : (subfields.findSome? BindSubfield.dimensions).isSome)
    (parser : DataStreamParser) :
    (∃ after, parse (framing.frame subfields) 0x03 parser = .ok .ignored after ∧
      after.calls = parser.calls ++
        (handledBindImages (framing.frame subfields) parser).map fun _ => .handleBindImage) ∧
    ¬ Reaches subfields (handledBindImages (framing.frame subfields) parser) := by
  refine ⟨parse_bindImage _ parser, fun reaches => ?_⟩
  obtain ⟨⟨rows, cols⟩, found⟩ := Option.isSome_iff_exists.mp sized
  obtain ⟨image, handled⟩ := List.length_eq_one_iff.mp reaches.once
  have member : image ∈ handledBindImages (framing.frame subfields) parser := by
    rw [handled]
    exact List.mem_singleton_self image
  obtain ⟨sameRows, _⟩ := reaches.dimensions image member rows cols found
  rw [handledBindImages_empty member] at sameRows
  cases sameRows

/-- A PSC of 24 rows and 80 columns, then one identifier. -/
def smallBind : List BindSubfield :=
  [⟨0x01, [0x00, 0x18, 0x00, 0x50], by decide⟩, ⟨0x02, [0x00, 0x02], by decide⟩]

def smallBindParser : DataStreamParser :=
  { smallParser 0 0 with hasNegotiator := true }

theorem bindImage_never_reaches_small :
    (smallBind.findSome? BindSubfield.dimensions).isSome ∧
      (∃ after, parse (BindFraming.structuredField.frame smallBind) 0x03 smallBindParser =
          .ok .ignored after ∧
        after.calls = smallBindParser.calls ++
          (handledBindImages (BindFraming.structuredField.frame smallBind)
            smallBindParser).map fun _ => .handleBindImage) ∧
      ¬ Reaches smallBind (handledBindImages (BindFraming.structuredField.frame smallBind)
        smallBindParser) :=
  ⟨by decide, bindImage_never_reaches .structuredField smallBind (by decide) smallBindParser⟩

theorem not_reaches_smallBind :
    smallBind.findSome? BindSubfield.dimensions = some (24, 80) ∧
      handledBindImages (BindFraming.structuredField.frame smallBind) smallBindParser =
        [{}] ∧
      ¬ Reaches smallBind (handledBindImages (BindFraming.structuredField.frame smallBind)
        smallBindParser) := by
  refine ⟨by decide, rfl, fun reaches => ?_⟩
  have sized := reaches.dimensions {} (List.mem_singleton_self _) 24 80 (by decide)
  cases sized.1

theorem handledBindImages_keepSize {data : List UInt8} {parser : DataStreamParser}
    {image : BindImage} (handled : image ∈ handledBindImages data parser)
    (negotiator : Negotiator) :
    (negotiator.handleBindImage image.rows image.cols).screenRows = negotiator.screenRows ∧
      (negotiator.handleBindImage image.rows image.cols).screenCols =
        negotiator.screenCols := by
  rw [handledBindImages_empty handled]
  exact ⟨rfl, rfl⟩

end DataStreamParser

end Pure3270
